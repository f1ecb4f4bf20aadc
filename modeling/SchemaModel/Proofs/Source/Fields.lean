import Mathlib
import SchemaModel.Proofs.Lists
import SchemaModel.Proofs.Source.NameParts
import SchemaModel.Proofs.Walk.Depth

/-!
# Identifiers of the fields of a class

A field is named after its property in snake case. This conversion keeps the words of a name and
forgets their case, and nothing else is lost on the way to the identifier: not by the `_` in front
of a digit, and not by what is done about keywords. So two fields of a class are called the same if
and only if the names of their properties have the same words. Names that are distinct by their case
only, such as `AB` and `Ab`, are left as they are by the numbering of names.

* `fieldName_inj`         when two fields are called the same;
* `numbered_of_nodup`     distinct names stay as they are;
* `fields_distinct_iff`   when the fields of a class of a run are distinct.
-/

namespace SchemaModel

namespace Text

/-- A text of parts that hold no separator does not start or end with one. -/
theorem ends_of_intercalate {sep : Char} {parts : List (List Char)}
    (h : ∀ w ∈ parts, w ≠ [] ∧ sep ∉ w) :
    ([sep].intercalate parts).head? ≠ some sep ∧
      ([sep].intercalate parts).getLast? ≠ some sep := by
  induction parts with
  | nil => exact ⟨nofun, nofun⟩
  | cons part rest ih =>
    obtain ⟨hne, hsep⟩ := h part List.mem_cons_self
    have hhead : part.head? ≠ some sep := fun he => hsep (List.mem_of_head? he)
    obtain ⟨-, hlast⟩ := ih fun w hw => h w (List.mem_cons_of_mem _ hw)
    by_cases hrest : rest = []
    · subst hrest
      rw [List.intercalate_singleton]
      exact ⟨hhead, fun he => hsep (List.mem_of_getLast? he)⟩
    · have hfilled : [sep].intercalate rest ≠ [] := fun hnone =>
        hrest (eq_nil_of_intercalate (fun w hw => (h w (List.mem_cons_of_mem _ hw)).1) hnone)
      rw [List.intercalate_cons_of_ne_nil hrest, List.append_assoc]
      constructor
      · intro he
        rw [List.head?_append, Option.or_eq_some_iff] at he
        rcases he with he | ⟨hnone, -⟩
        · exact hhead he
        · exact hne (List.head?_eq_none_iff.mp hnone)
      · intro he
        rw [List.getLast?_append, List.getLast?_append, Option.or_eq_some_iff,
          Option.or_eq_some_iff, Option.or_eq_none_iff] at he
        rcases he with (he | ⟨hnone, -⟩) | ⟨⟨hnone, -⟩, -⟩
        · exact hlast he
        · exact hfilled (List.getLast?_eq_none_iff.mp hnone)
        · exact hfilled (List.getLast?_eq_none_iff.mp hnone)

/-- A name in snake case does not start or end with `_`. -/
theorem ends_of_snake (s : String) :
    (snake s).toList.head? ≠ some '_' ∧ (snake s).toList.getLast? ≠ some '_' := by
  rw [snake, String.toList_ofList]
  refine ends_of_intercalate fun w hw => ?_
  obtain ⟨hne, hword⟩ := of_mem_foldedWords hw
  exact ⟨hne, fun hm => absurd (hword '_' hm) (by decide)⟩

end Text

namespace Naming

/-! ## two identifiers -/

theorem toList_guarded (name : String) :
    (guarded '_' name).toList = name.toList ∨
      (guarded '_' name).toList = '_' :: name.toList := by
  rcases guarded_eq name with h | h
  · exact .inl (by rw [h])
  · exact .inr (by rw [h, String.toList_append]; rfl)

theorem guarded_inj {s t : String} (hs : s.toList.head? ≠ some '_')
    (ht : t.toList.head? ≠ some '_') (h : guarded '_' s = guarded '_' t) : s = t := by
  rw [← String.toList_inj] at h ⊢
  rcases toList_guarded s with hgs | hgs <;> rcases toList_guarded t with hgt | hgt <;>
    rw [hgs, hgt] at h
  · exact h
  · exact absurd (by rw [h]; rfl) hs
  · exact absurd (by rw [← h]; rfl) ht
  · exact (List.cons.inj h).2

/-- No name in snake case is a keyword with `_` behind it. -/
theorem guarded_ne_append {s k : String} (hk : k ∈ pathKeywords) :
    guarded '_' (Text.snake s) ≠ k ++ "_" := by
  intro h
  have hlist := congrArg String.toList h
  rw [String.toList_append] at hlist
  rcases toList_guarded (Text.snake s) with hg | hg
  · rw [hg] at hlist
    refine (Text.ends_of_snake s).2 ?_
    rw [hlist, List.getLast?_append]
    rfl
  · -- a keyword does not start with `_`
    have hhead : ∀ k ∈ pathKeywords, (k.toList ++ "_".toList).head? ≠ some '_' := by decide
    rw [hg] at hlist
    exact hhead k hk (by rw [← hlist]; rfl)

/-- Two fields are called the same if and only if the words of their names differ in case at
most. -/
theorem fieldName_inj {a b : String} :
    fieldName a = fieldName b ↔ Text.foldedWords a = Text.foldedWords b := by
  rw [← Text.snake_inj]
  constructor
  · intro h
    have hplain := congrArg plain h
    rw [plain_fieldName_eq, plain_fieldName_eq] at hplain
    have hguarded : guarded '_' (Text.snake a) = guarded '_' (Text.snake b) := by
      split at hplain
      · next ha =>
        split at hplain
        · exact String.append_left_inj _ |>.mp hplain
        · exact absurd hplain.symm (guarded_ne_append ha)
      · split at hplain
        · next hb => exact absurd hplain (guarded_ne_append hb)
        · exact hplain
    exact guarded_inj (Text.ends_of_snake a).1 (Text.ends_of_snake b).1 hguarded
  · intro h
    unfold fieldName
    rw [h]

/-! ## names that are not numbered -/

theorem numberedFrom_of_count {all before names : List String}
    (h : ∀ name ∈ names, all.count name ≤ 1) : numberedFrom all before names = names := by
  induction names generalizing before with
  | nil => rfl
  | cons name rest ih =>
    have hone := h name List.mem_cons_self
    rw [numberedFrom, if_neg (Nat.not_lt.mpr hone),
      ih fun other ho => h other (List.mem_cons_of_mem _ ho)]

/-- Names that are distinct stay as they are. -/
theorem numbered_of_nodup {names : List String} (h : names.Nodup) : numbered names = names :=
  numberedFrom_of_count fun name _ => List.nodup_iff_count.mp h name

end Naming

/-! ## the fields of a class -/

/-- The fields of a class of a run are distinct if and only if no two of its properties have names
with the same words. They are distinct as soon as the names that the keys give have different
words. -/
theorem fields_distinct_iff {r : Run} {models : ModelSet} (h : r.models = .ok models)
    {c : ClassModel} (hc : c ∈ models.classes) :
    (c.fields.Nodup ↔ (c.properties.map fun p => Text.foldedWords p.name).Nodup) ∧
    ((c.properties.map fun p =>
        Text.foldedWords (propertyName r.hints c.name p.jsonName)).Nodup → c.fields.Nodup) := by
  have hiff : c.fields.Nodup ↔ (c.properties.map fun p => Text.foldedWords p.name).Nodup :=
    nodup_map_congr fun _ _ => Naming.fieldName_inj
  refine ⟨hiff, fun hkeys => hiff.mpr ?_⟩
  obtain ⟨m, hm, hclass⟩ := List.mem_filterMap.mp hc
  have hspelled := Run.spelled_of_models h hm
  cases hspelled with
  | ofEnum => cases hclass
  | ofClass _ hnames =>
    cases hclass
    -- names with different words are different, so none of them is numbered
    have hgiven : (c.properties.map fun p => propertyName r.hints c.name p.jsonName).Nodup := by
      have hwords : ((c.properties.map fun p => propertyName r.hints c.name p.jsonName).map
          Text.foldedWords).Nodup := by rwa [List.map_map]
      exact List.Pairwise.of_map Text.foldedWords (fun _ _ hne he => hne (congrArg _ he)) hwords
    rw [Naming.numbered_of_nodup hgiven] at hnames
    have hmapped := congrArg (List.map Text.foldedWords) hnames
    rw [List.map_map, List.map_map] at hmapped
    show (List.map (Text.foldedWords ∘ Property.name) c.properties).Nodup
    rw [hmapped]
    exact hkeys

/-! ## two classes -/

/-- a class with string properties of the given names and keys -/
def recordModels (properties : List (String × String)) : ModelSet :=
  [.ofClass ⟨"N", "Record", none,
    properties.map fun (name, key) => ⟨name, key, .string, false, none⟩, false⟩]

/-- the run for an object with string properties of the given keys -/
def recordRun (keys : List String) : Run where
  graph := ⟨(keys.map fun key => { type := some .string, pointer := ["properties", key] }).toArray.push
    { type := some .object, properties := keys.zipIdx }⟩
  hints := {}
  settings := { namespaceName := "N", rootClassName := "Record" }

def variedModels : ModelSet := recordModels [("Type", "type"), ("Self", "self"), ("T2d", "2d"),
  ("FirstName", "firstName"), ("Firstname", "firstname")]

/-- Keywords, digits and the case inside of a key make no two fields the same. -/
theorem fields_of_variedRun :
    (recordRun ["type", "self", "2d", "firstName", "firstname"]).models = .ok variedModels ∧
    ∀ c ∈ variedModels.classes,
      c.fields = ["r#type", "self_", "t2d", "first_name", "firstname"] ∧ c.fields.Nodup := by
  have hmodels : (recordRun ["type", "self", "2d", "firstName", "firstname"]).models =
      .ok variedModels :=
    Run.models_of_within rfl rfl (by with_unfolding_all rfl)
  have hwords : ∀ c ∈ variedModels.classes, (c.properties.map fun p =>
      Text.foldedWords (propertyName {} c.name p.jsonName)).Nodup := by decide
  have hfields : ∀ c ∈ variedModels.classes,
      c.fields = ["r#type", "self_", "t2d", "first_name", "firstname"] := by decide
  exact ⟨hmodels, fun c hc => ⟨hfields c hc, (fields_distinct_iff hmodels hc).2 (hwords c hc)⟩⟩

def caseSettings : Settings := { namespaceName := "N", rootClassName := "Record" }

def caseSchema : String :=
  "\x7b\"type\": \"object\", \"properties\": \x7b\"a_b\": \x7b\"type\": \"string\"\x7d, " ++
  "\"ab\": \x7b\"type\": \"string\"\x7d\x7d\x7d"

/-- Two keys that give names distinct by their case, so that both fields are called `ab`. -/
theorem fields_equal_up_to_case :
    ModelSet.ofText caseSettings none caseSchema =
      .ok (recordModels [("AB", "a_b"), ("Ab", "ab")]) ∧
    ∃ c ∈ (recordModels [("AB", "a_b"), ("Ab", "ab")]).classes,
      c.fields = ["ab", "ab"] ∧ ¬ c.fields.Nodup := by
  have hmodels : ModelSet.ofText caseSettings none caseSchema =
      .ok (recordModels [("AB", "a_b"), ("Ab", "ab")]) := by cbv
  refine ⟨hmodels, _, List.mem_cons_self, ?_, ?_⟩
  · decide
  · decide

end SchemaModel
