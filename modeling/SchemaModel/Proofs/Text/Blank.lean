import Mathlib.Data.List.TakeWhile
import SchemaModel.Proofs.Lists
import SchemaModel.Text.Blank

/-!
# Trimmed texts

What is left of a text without the white space around it. Trimming takes away all of it and nothing
else, so a text without anything else is trimmed to the empty one.

* `trimList_eq_iff`         a trimmed text stands between white space, and has none at its ends;
* `trimList_eq_nil_iff`     nothing is left of white space.
-/

namespace SchemaModel.Text

theorem dropEnd_eq_iff {p : Char → Bool} {l front : List Char} :
    dropEnd p l = front ↔ ∃ behind, l = front ++ behind ∧ (∀ c ∈ behind, p c) ∧
      ∀ c, front.getLast? = some c → p c = false := by
  simp only [← takeWhile_reverse_iff, exists_eq_left', dropEnd]

theorem trimList_eq_iff {l t : List Char} :
    trimList l = t ↔ ∃ left right, l = left ++ t ++ right ∧ (∀ c ∈ left ++ right, isBlank c) ∧
      (∀ c, t.head? = some c → isBlank c = false) ∧
      ∀ c, t.getLast? = some c → isBlank c = false := by
  rw [trimList, trimEnd, dropEnd_eq_iff]
  constructor
  · rintro ⟨right, htail, hright, hlast⟩
    obtain ⟨hl, hleft, hfirst⟩ :=
      takeWhile_dropWhile_iff.mp ⟨rfl, htail⟩
    refine ⟨_, right, by rw [List.append_assoc]; exact hl, ?_, fun c hc => hfirst c ?_, hlast⟩
    · exact List.forall_mem_append.mpr ⟨hleft, hright⟩
    · rw [List.head?_append, hc]
      rfl
  · rintro ⟨left, right, rfl, hblank, hfirst, hlast⟩
    obtain ⟨hleft, hright⟩ := List.forall_mem_append.mp hblank
    rw [List.append_assoc, List.dropWhile_append_of_pos hleft]
    cases t with
    | nil => exact ⟨[], by simpa using hright, nofun, nofun⟩
    | cons c rest =>
      refine ⟨right, ?_, hright, hlast⟩
      rw [List.cons_append, List.dropWhile_cons_of_neg]
      simp [hfirst c rfl]

/-- Nothing is left of white space. -/
theorem trimList_eq_nil_iff {s : String} : trimList s.toList = [] ↔ allBlank s := by
  rw [trimList_eq_iff, allBlank, List.all_eq_true]
  constructor
  · rintro ⟨left, right, hs, hblank, -⟩
    rwa [hs, List.append_nil]
  · exact fun hblank => ⟨s.toList, [], by simp, by simpa using hblank, nofun, nofun⟩

theorem nonBlank?_eq_none_iff {s : String} : nonBlank? s = none ↔ allBlank s := by
  have hempty : trim s = "" ↔ trimList s.toList = [] := by
    rw [trim, ← String.toList_inj, String.toList_ofList]
    rfl
  rw [← trimList_eq_nil_iff, ← hempty]
  simp [nonBlank?]

end SchemaModel.Text
