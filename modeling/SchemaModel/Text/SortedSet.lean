/-!
# Sorted lists of texts

A list of texts without repetitions, in the order of their characters. This is also the order of
their UTF-8 bytes.

* `mem_sortedSet`        no text is lost or made up;
* `sorted_sortedSet`     the list ascends, so no text occurs in it twice.
-/

namespace SchemaModel.Text

/-- A text put into an ascending list, unless it is there already. -/
def insertSorted (s : String) : List String → List String
  | [] => [s]
  | t :: rest => if s < t then s :: t :: rest else if s = t then t :: rest
    else t :: insertSorted s rest

/-- the texts of a list, ascending -/
def sortedSet (texts : List String) : List String := texts.foldr insertSorted []

theorem mem_insertSorted {s t : String} {texts : List String} :
    t ∈ insertSorted s texts ↔ t = s ∨ t ∈ texts := by
  fun_induction insertSorted s texts with
  | case1 => simp
  | case2 => simp
  | case3 rest => simp
  | case4 u rest _ _ ih => simp [ih, or_left_comm]

theorem mem_sortedSet {s : String} {texts : List String} : s ∈ sortedSet texts ↔ s ∈ texts := by
  induction texts with
  | nil => simp [sortedSet]
  | cons t rest ih => rw [sortedSet, List.foldr_cons, mem_insertSorted, ← sortedSet, ih,
      List.mem_cons]

theorem sorted_insertSorted {s : String} {texts : List String}
    (h : texts.Pairwise (· < ·)) : (insertSorted s texts).Pairwise (· < ·) := by
  fun_induction insertSorted s texts with
  | case1 => simp
  | case2 t rest hlt =>
    refine List.pairwise_cons.mpr ⟨fun u hu => ?_, h⟩
    rcases List.mem_cons.mp hu with rfl | hu
    · exact hlt
    · exact String.lt_trans hlt (List.rel_of_pairwise_cons h hu)
  | case3 rest _ => exact h
  | case4 t rest hlt hne ih =>
    obtain ⟨h₁, h₂⟩ := List.pairwise_cons.mp h
    refine List.pairwise_cons.mpr ⟨fun u hu => ?_, ih h₂⟩
    rcases mem_insertSorted.mp hu with rfl | hu
    · exact Classical.byContradiction fun hn =>
        hne (String.le_antisymm (String.not_lt.mp hn) (String.not_lt.mp hlt))
    · exact h₁ u hu

theorem sorted_sortedSet (texts : List String) : (sortedSet texts).Pairwise (· < ·) := by
  induction texts with
  | nil => exact List.Pairwise.nil
  | cons t rest ih => exact sorted_insertSorted ih

end SchemaModel.Text
