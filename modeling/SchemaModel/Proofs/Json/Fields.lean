import Mathlib.Logic.Basic
import SchemaModel.Json.Typed
import SchemaModel.Proofs.Json.Distinct

/-!
# Fields of an object

What a reader of an object sees under a key: a null counts as an absent field, and a value of the
wrong type is a fault. A field can be taken out of an object, which changes the order of the others
and nothing else.

* `faultOf_optional_eq_none_iff`   an optional field is null, or of its type;
* `valueAt?_eq_text_iff`           the text under a key, and when there is no other value;
* `perm_takeField`                 without one field, an object has the others;
* `valueAt?_takeField`             under another key nothing changes.
-/

namespace SchemaModel.Json

/-- The value under a key. A null counts as absent. -/
def valueAt? (key : String) (fields : List (String × Json)) : Option Json :=
  match fields.lookup key with
  | some .null => none
  | found => found

/-- The value is a text. -/
def IsText (j : Json) : Prop := ∃ s, j = .string s

/-- The value is a sequence of texts. -/
def IsTexts (j : Json) : Prop := ∃ ss : List String, j = .array (ss.map .string)

section
variable {fields : List (String × Json)} {key : String} {j : Json}

theorem valueAt?_eq_some_iff :
    valueAt? key fields = some j ↔ fields.lookup key = some j ∧ j ≠ .null := by
  unfold valueAt?
  split
  · next hnull =>
    rw [hnull]
    refine iff_of_false nofun fun h => h.2 ?_
    exact (Option.some.inj h.1).symm
  · next hfound =>
    refine ⟨fun h => ⟨h, ?_⟩, fun h => h.1⟩
    rintro rfl
    exact hfound h

end

/-! ## values of a type -/

theorem faultOf_eq_none_iff {x : Except ε α} : faultOf x = none ↔ ∃ a, x = .ok a := by
  cases x <;> simp [faultOf]

/-- An optional field is null, or of its type. -/
theorem faultOf_optional_eq_none_iff {read : Json → Except Mismatch α} {j : Json} :
    faultOf (j.optional read) = none ↔ j = .null ∨ ∃ a, read j = .ok a := by
  rw [faultOf_eq_none_iff]
  cases j with
  | null => simp [optional]
  | _ =>
    rw [optional]
    · cases read _ <;> simp [Functor.map, Except.map]
    · nofun

theorem asText_ok_iff {j : Json} : (∃ s, j.asText = .ok s) ↔ j.IsText := by
  simp only [asText_eq_ok_iff, IsText]

theorem asTexts_ok_iff {j : Json} : (∃ ss, j.asTexts = .ok ss) ↔ j.IsTexts := by
  simp only [asTexts_eq_ok_iff, IsTexts]

section
variable {fields : List (String × Json)} {key : String}

theorem textAt?_eq_some_iff {s : String} :
    textAt? key fields = some s ↔ valueAt? key fields = some (.string s) := by
  unfold valueAt? textAt?
  cases fields.lookup key with
  | none => simp
  | some v => cases v <;> simp

/-- The value under a key is a given text, or absent like it: then the text is found, and no value
that is not one. -/
theorem valueAt?_eq_text_iff {t : Option String} :
    valueAt? key fields = t.map .string ↔
      (∀ j, valueAt? key fields = some j → j.IsText) ∧ textAt? key fields = t := by
  unfold valueAt? textAt? IsText
  cases fields.lookup key with
  | none => cases t <;> simp
  | some v => cases v <;> cases t <;> simp

theorem valueAt?_eq_texts_iff {t : Option (List String)} :
    valueAt? key fields = t.map (fun ss => .array (ss.map .string)) ↔
      (∀ j, valueAt? key fields = some j → j.IsTexts) ∧ textsAt? key fields = t := by
  have hread {text? : Json → Option String} (h : ∀ s, text? (.string s) = some s)
      (ss : List String) : (ss.map Json.string).filterMap text? = ss := by
    have hsome : text? ∘ Json.string = some := funext h
    rw [List.filterMap_map, hsome, List.filterMap_some]
  unfold valueAt? textsAt? IsTexts
  cases fields.lookup key with
  | none => cases t <;> simp
  | some v =>
    cases v with
    | array items =>
      cases t with
      | none => simp
      | some ss =>
        simp only [Option.some.injEq, Option.map_some, Json.array.injEq, forall_eq']
        constructor
        · rintro rfl
          exact ⟨⟨ss, rfl⟩, hread (fun _ => rfl) ss⟩
        · rintro ⟨⟨ss', rfl⟩, h⟩
          rw [← h, hread fun _ => rfl]
    | _ => cases t <;> simp

end

/-! ## an object without one of its fields -/

section
variable {fields : List (String × Json)} {key : String}

theorem mem_keys_of_lookup {j : Json} (h : fields.lookup key = some j) :
    key ∈ fields.map Prod.fst := List.mem_map_of_mem (mem_of_lookup h)

theorem filter_of_not_mem (hm : key ∉ fields.map Prod.fst) :
    fields.filter (·.1 ≠ key) = fields := by
  rw [List.filter_eq_self]
  intro field hf
  exact decide_eq_true fun he => hm (List.mem_map.mpr ⟨field, hf, he⟩)

theorem perm_replace (hk : (fields.map Prod.fst).Nodup) (hm : key ∈ fields.map Prod.fst)
    (last : String × Json) :
    (fields.map fun field => if field.1 = key then last else field).Perm
      (fields.filter (·.1 ≠ key) ++ [last]) := by
  induction fields with
  | nil => cases hm
  | cons field rest ih =>
    obtain ⟨hnew, hrest⟩ := List.nodup_cons.mp hk
    rw [List.map_cons, List.filter_cons]
    by_cases hfirst : field.1 = key
    · have hout : key ∉ rest.map Prod.fst := hfirst ▸ hnew
      have hsame : (rest.map fun field => if field.1 = key then last else field) = rest :=
        (List.map_congr_left fun f hf => if_neg fun he =>
          hout (List.mem_map.mpr ⟨f, hf, he⟩)).trans (List.map_id' rest)
      rw [hsame, filter_of_not_mem hout, if_pos hfirst, if_neg (by simpa using hfirst)]
      exact (List.perm_append_singleton last rest).symm
    · have hmore : key ∈ rest.map Prod.fst := (List.mem_cons.mp hm).resolve_left (Ne.symm hfirst)
      rw [if_neg hfirst, if_pos (by simpa using hfirst)]
      exact (ih hrest hmore).cons field

/-- Without one field, an object has the others. -/
theorem perm_takeField (hk : (fields.map Prod.fst).Nodup) (hm : key ∈ fields.map Prod.fst) :
    (takeField key fields).Perm (fields.filter (·.1 ≠ key)) := by
  rcases fields.eq_nil_or_concat with rfl | ⟨front, last, rfl⟩
  · cases hm
  rw [List.concat_eq_append] at hk hm ⊢
  rw [takeField, List.getLast?_concat, List.dropLast_concat, List.filter_append]
  rw [List.map_append, List.nodup_append] at hk
  dsimp only
  split
  · next hlast =>
    have hfront : key ∉ front.map Prod.fst := fun hf =>
      hk.2.2 key hf last.1 (by simp) hlast.symm
    rw [filter_of_not_mem hfront]
    simp [hlast]
  · next hlast =>
    have hfront : key ∈ front.map Prod.fst := by
      simpa [Ne.symm hlast] using hm
    have hkept : [last].filter (·.1 ≠ key) = [last] := by simp [hlast]
    rw [hkept]
    exact perm_replace hk.1 hfront last

theorem nodup_keys_takeField (hk : (fields.map Prod.fst).Nodup) (hm : key ∈ fields.map Prod.fst) :
    ((takeField key fields).map Prod.fst).Nodup := by
  refine ((perm_takeField hk hm).map Prod.fst).nodup_iff.mpr ?_
  exact hk.sublist (List.filter_sublist.map Prod.fst)

/-- Under another key nothing changes. -/
theorem lookup_takeField (hk : (fields.map Prod.fst).Nodup) (hm : key ∈ fields.map Prod.fst)
    {other : String} (hne : other ≠ key) :
    (takeField key fields).lookup other = fields.lookup other := by
  ext value
  rw [lookup_eq_some_iff_mem (nodup_keys_takeField hk hm), lookup_eq_some_iff_mem hk,
    (perm_takeField hk hm).mem_iff, List.mem_filter]
  simp [hne]

theorem valueAt?_takeField (hk : (fields.map Prod.fst).Nodup) (hm : key ∈ fields.map Prod.fst)
    {other : String} (hne : other ≠ key) :
    valueAt? other (takeField key fields) = valueAt? other fields := by
  rw [valueAt?, valueAt?, lookup_takeField hk hm hne]

theorem mem_takeField (hk : (fields.map Prod.fst).Nodup) (hm : key ∈ fields.map Prod.fst)
    {field : String × Json} :
    field ∈ takeField key fields ↔ field ∈ fields ∧ field.1 ≠ key := by
  rw [(perm_takeField hk hm).mem_iff, List.mem_filter, decide_eq_true_iff]

end

end SchemaModel.Json
