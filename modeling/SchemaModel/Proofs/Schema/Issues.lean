import SchemaModel.Proofs.Schema.Positions
import SchemaModel.Schema.Support

/-!
# The issues of an object

The strict check goes through the fields of an object in their order, and through the schemas in
them on the way. Sorted by keyword these issues are those of the properties, of the items and of the
definitions, each found by a lookup, and those of the keys of the object itself.

* `fieldIssues_cons`    the issues of one field, by its key;
* `perm_fieldIssues`    the issues of an object, sorted by the keywords under which they lie.
-/

namespace SchemaModel.Schema

/-- the keys of an object that are not supported -/
def refusedKeys (fields : List (String × Json)) : List String :=
  (fields.map Prod.fst).filter (· ∉ supported)

/-- what one key of an object contributes to a list -/
def under (key : String) (f : Json → List α) (field : String × Json) : List α :=
  if field.1 = key then f field.2 else []

/-- Under a key stands one value at most. -/
theorem flatMap_under {fields : List (String × Json)} (hk : (fields.map Prod.fst).Nodup)
    (key : String) (f : Json → List α) :
    fields.flatMap (under key f) = (fields.lookup key).toList.flatMap f := by
  induction fields with
  | nil => rfl
  | cons field rest ih =>
    obtain ⟨k, v⟩ := field
    obtain ⟨hnew, hrest⟩ := List.nodup_cons.mp hk
    rw [List.flatMap_cons, ih hrest, List.lookup_cons]
    by_cases hkey : key = k
    · subst hkey
      have hnone : rest.lookup key = none := by
        rw [List.lookup_eq_none_iff]
        intro entry he
        exact bne_iff_ne.mpr fun hsame => hnew (List.mem_map.mpr ⟨entry, he, hsame.symm⟩)
      rw [hnone, beq_self_eq_true, under, if_pos rfl]
      simp
    · rw [beq_false_of_ne hkey, under, if_neg (Ne.symm hkey)]
      rfl

/-- the issues of a value under a keyword that holds schemas by name -/
def groupIssues (p : Pointer) : Json → List Issue
  | .object members => memberIssues p members
  | _ => []

theorem groupIssues_lookup (p : Pointer) (key : String) (fields : List (String × Json)) :
    (fields.lookup key).toList.flatMap (groupIssues p) = memberIssues p (membersAt key fields) := by
  unfold membersAt
  split
  · next members hm =>
    rw [hm, Option.toList_some, List.flatMap_singleton, groupIssues]
  · next hm =>
    rw [memberIssues]
    cases hv : fields.lookup key with
    | none => rfl
    | some v =>
      rw [Option.toList_some, List.flatMap_singleton]
      cases v with
      | object members => exact absurd hv (hm members)
      | _ => rfl

theorem issues_lookup_items (p : Pointer) (fields : List (String × Json)) :
    (fields.lookup "items").toList.flatMap (issues p) =
      (itemsAt? fields).toList.flatMap (issues p) := by
  unfold itemsAt?
  split
  · next hnull =>
    rw [hnull]
    simp [issues]
  · rfl

/-- Three keywords have values that hold schemas. -/
theorem keyword_cases (key : String) : key = "properties" ∨ key = "items" ∨ key = "definitions" ∨
    key ≠ "properties" ∧ key ≠ "items" ∧ key ≠ "definitions" := by
  tauto

/-- The issues of a field, by its key. -/
theorem fieldIssues_cons (p : Pointer) (field : String × Json) (rest : List (String × Json)) :
    fieldIssues p (field :: rest) =
      under "properties" (groupIssues (p ++ ["properties"])) field ++
        under "items" (issues (p ++ ["items"])) field ++
        under "definitions" (groupIssues (p ++ ["definitions"])) field ++
        (if field.1 ∉ supported then [issue p field.1] else []) ++ fieldIssues p rest := by
  obtain ⟨key, v⟩ := field
  by_cases hs : key ∈ supported
  · rcases keyword_cases key with rfl | rfl | rfl | ⟨hp, hi, hd⟩
    · cases v <;> simp [fieldIssues, under, groupIssues, hs]
    · cases v <;> simp [fieldIssues, under, issues, hs]
    · cases v <;> simp [fieldIssues, under, groupIssues, hs]
    · cases v <;> simp [fieldIssues, under, hs, hp, hi, hd]
  · -- a key that is not supported is none of the keywords that hold schemas
    have hne : ∀ keyword ∈ supported, key ≠ keyword := fun keyword hk he => hs (he ▸ hk)
    have hp := hne "properties" (by decide)
    have hi := hne "items" (by decide)
    have hd := hne "definitions" (by decide)
    cases v <;> simp [fieldIssues, under, hs, hp, hi, hd]

/-- The issues of an object are those of its properties, of its items and of its definitions, and
those of its own keys. -/
theorem perm_fieldIssues (p : Pointer) {fields : List (String × Json)}
    (hk : (fields.map Prod.fst).Nodup) :
    (fieldIssues p fields).Perm
      (memberIssues (p ++ ["properties"]) (membersAt "properties" fields) ++
        (itemsAt? fields).toList.flatMap (issues (p ++ ["items"])) ++
        memberIssues (p ++ ["definitions"]) (membersAt "definitions" fields) ++
        (refusedKeys fields).map (issue p)) := by
  rw [← groupIssues_lookup, ← groupIssues_lookup, ← issues_lookup_items, ← flatMap_under hk,
    ← flatMap_under hk, ← flatMap_under hk]
  clear hk
  induction fields with
  | nil =>
    rw [fieldIssues]
    rfl
  | cons field rest ih =>
    have hown : (refusedKeys (field :: rest)).map (issue p) =
        (if field.1 ∉ supported then [issue p field.1] else []) ++
          (refusedKeys rest).map (issue p) := by
      by_cases hs : field.1 ∈ supported <;> simp [refusedKeys, hs]
    rw [fieldIssues_cons, hown]
    simp only [List.flatMap_cons]
    grind

theorem checkSupported_eq (j : Json) : checkSupported j =
    if issues [] j = [] then .ok () else .error (.refusedKeywords (issues [] j)) := by
  rw [checkSupported]
  split
  · next hnone => rw [if_pos hnone]
  · next hsome => rw [if_neg hsome]

theorem checkSupported_eq_ok_iff {j : Json} :
    checkSupported j = .ok () ↔ issues [] j = [] := by
  rw [checkSupported_eq]
  split
  · next hnone => exact iff_of_true rfl hnone
  · next hsome => exact iff_of_false nofun hsome

end SchemaModel.Schema
