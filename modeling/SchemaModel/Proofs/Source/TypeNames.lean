import Mathlib
import SchemaModel.Proofs.Source.NameParts
import SchemaModel.Proofs.Walk.Dependencies

/-!
# The type that a text stands for

A type is written as the text of a built-in type or as the name of a model, and with `Vec<` and `>`
around its elements if it is a sequence. The text reads back as this type, with one exception: the
name of a model can be `String`, and then it is the text of the built-in type. The names of models
start with no lower case letter of ASCII and hold no `<`, so that no other text is shared. The names
that are written in front of `<` can be those of models as well, but there they have nothing behind
them.

* `readType_typeText`       a text reads back as its type, apart from models called `String`;
* `unboxed_fieldTypeText`   a box around the type of a field is all that depends on its owner;
* `type_texts_iff`          the types of properties that share a text.
-/

namespace SchemaModel

/-- the type, with a class or enumeration `String` taken for the built-in type -/
def TypeRef.asBuiltIn : TypeRef → TypeRef
  | .classNamed name => if name = "String" then .string else .classNamed name
  | .enumNamed name => if name = "String" then .string else .enumNamed name
  | .sequence element => .sequence element.asBuiltIn
  | t => t

theorem TypeRef.asBuiltIn_of_leaf {t : TypeRef}
    (h : t.leaf ≠ .classNamed "String" ∧ t.leaf ≠ .enumNamed "String") : t.asBuiltIn = t := by
  induction t with
  | classNamed name => exact if_neg fun he => h.1 (congrArg _ he)
  | enumNamed name => exact if_neg fun he => h.2 (congrArg _ he)
  | sequence element ih => exact congrArg _ (ih h)
  | boolean | integer | number | string | dateTime | any => rfl

/-- the type of what has the model -/
def Model.type : Model → TypeRef
  | .ofClass c => .classNamed c.name
  | .ofEnum e => .enumNamed e.name

/-- what a type names is a model of the kind that the type says -/
def ModelSet.Resolves (models : ModelSet) (t : TypeRef) : Prop :=
  (∀ name, t.leaf = .classNamed name → ∃ c, models.get? name = some (.ofClass c)) ∧
    ∀ name, t.leaf = .enumNamed name → ∃ e, models.get? name = some (.ofEnum e)

theorem ModelSet.name_of_get? {models : ModelSet} {name : String} {m : Model}
    (h : models.get? name = some m) : m.name = name := by
  simpa using List.find?_some h

theorem ModelSet.mem_names_of_get? {models : ModelSet} {name : String} {m : Model}
    (h : models.get? name = some m) : name ∈ models.map Model.name :=
  ModelSet.name_of_get? h ▸ List.mem_map_of_mem (List.mem_of_find?_eq_some h)

/-- At the end of a run every type of a property resolves. -/
theorem resolves_of_models {r : Run} {models : ModelSet} (h : r.models = .ok models)
    {c : ClassModel} (hc : c ∈ models.classes) {p : Property} (hp : p ∈ c.properties) :
    models.Resolves p.type := by
  obtain ⟨-, done, hw, rfl⟩ := Run.models_ok h
  have hd := Run.distinct_of_walk hw
  have hm := Run.described_of_walk hw
  obtain ⟨id, he⟩ := mem_classes.mp hc
  obtain ⟨target, ht⟩ := (hm _ he).denotes_of_property hp
  have hget : ∀ {i m}, (i, m) ∈ done → ModelSet.get? (done.map Prod.snd) m.name = some m :=
    fun hi => get?_of_mem hd.finished_names (List.mem_map_of_mem hi)
  constructor
  · intro name hl
    obtain ⟨node, properties, hs, hn⟩ := ht.class_of_leaf hl
    obtain ⟨target, hi, rfl, -⟩ := Run.class_of_given hd hm hs hn
    exact ⟨target, hget hi⟩
  · intro name hl
    obtain ⟨node, values, hs, hn⟩ := ht.enum_of_leaf hl
    obtain ⟨target, hi, rfl⟩ := Run.enum_of_given hd hm hs hn
    exact ⟨target, hget hi⟩

namespace Source

open Text

/-! ## reading types -/

/-- what stands between the brackets behind a name in front of the text -/
def inside? (wrapper : String) (text : List Char) : Option (List Char) :=
  ((wrapper ++ "<").toList.isPrefixOf? text).map List.dropLast

theorem length_lt_of_inside? {wrapper : String} {text inner : List Char}
    (h : inside? wrapper text = some inner) : inner.length < text.length := by
  obtain ⟨rest, hrest, rfl⟩ := Option.map_eq_some_iff.mp h
  rw [← List.append_eq_of_isPrefixOf?_eq_some hrest, String.toList_append]
  have hbracket : "<".toList.length = 1 := rfl
  rw [List.length_append, List.length_append, List.length_dropLast]
  omega

theorem inside?_wrapped (wrapper inner : String) :
    inside? wrapper (wrapper ++ "<" ++ inner ++ ">").toList = some inner.toList := by
  have hsplit : (wrapper ++ "<" ++ inner ++ ">").toList =
      (wrapper ++ "<").toList ++ (inner.toList ++ ['>']) := by simp
  rw [inside?, hsplit, List.isPrefixOf?_eq_some_iff_append_eq.mpr rfl, Option.map_some,
    List.dropLast_concat]

/-- A text without brackets has nothing inside. -/
theorem inside?_of_not_mem {wrapper : String} {text : List Char} (h : '<' ∉ text) :
    inside? wrapper text = none := by
  rw [inside?, Option.map_eq_none_iff, Option.eq_none_iff_forall_ne_some]
  intro rest hrest
  rw [← List.append_eq_of_isPrefixOf?_eq_some hrest] at h
  exact h (by simp)

/-- the types that are no models and have no elements -/
def builtInTypes : List TypeRef := [.boolean, .integer, .number, .string, .dateTime, .any]

/-- the built-in type that is written as the text -/
def builtIn? (text : String) : Option TypeRef := builtInTypes.find? fun t => typeText t = text

/-- a built-in type, or else the model that has the text as its name -/
def readLeaf (models : ModelSet) (text : String) : Option TypeRef :=
  builtIn? text <|> (models.get? text).map Model.type

def readType (models : ModelSet) (text : List Char) : Option TypeRef :=
  match _h : inside? "Vec" text with
  | some element => (readType models element).map .sequence
  | none => readLeaf models (String.ofList text)
termination_by text.length
decreasing_by exact length_lt_of_inside? _h

theorem readType_of_inside? {models : ModelSet} {text element : List Char}
    (h : inside? "Vec" text = some element) :
    readType models text = (readType models element).map .sequence := by
  rw [readType]
  split
  · next element' h' =>
    rw [h] at h'
    cases h'
    rfl
  · next h' =>
    rw [h] at h'
    cases h'

theorem readType_of_inside?_eq_none {models : ModelSet} {text : String}
    (h : inside? "Vec" text.toList = none) :
    readType models text.toList = readLeaf models text := by
  rw [readType]
  split
  · next element' h' =>
    rw [h] at h'
    cases h'
  · rw [String.ofList_toList]

/-! ## names and built-in types -/

/-- the texts of the built-in types, and the names that are written in front of brackets -/
def builtInNames : List String := builtInTypes.map typeText ++ ["Vec", "Option", "Box"]

/-- those of them that can be names of models -/
def capitalBuiltInNames : List String := ["String", "Vec", "Option", "Box"]

/-- The text of every other built-in type starts with a lower case letter. -/
theorem head_of_builtIn : ∀ t ∈ builtInTypes, t ≠ .string →
    ((typeText t).toList.headD 'A').toNat < 128 ∧
      ((typeText t).toList.headD 'A').isUpper = false := by decide

theorem typeText_ne_of_capitalParts {name : String} (h : CapitalParts name) {t : TypeRef}
    (ht : t ∈ builtInTypes) (hne : t ≠ .string) : typeText t ≠ name := by
  rintro rfl
  obtain ⟨c, rest, hname, -, hupper, -⟩ := h
  obtain ⟨hascii, hlower⟩ := head_of_builtIn t ht hne
  rw [hname, List.headD_cons] at hascii hlower
  exact Bool.false_ne_true (hlower.symm.trans (hupper hascii))

/-- Of the names of models only `String` is the text of a built-in type. -/
theorem builtIn?_of_capitalParts {name : String} (h : CapitalParts name)
    (hne : name ≠ "String") : builtIn? name = none := by
  refine List.find?_eq_none.mpr fun t ht => ?_
  rw [decide_eq_true_eq]
  by_cases hstring : t = .string
  · rw [hstring]
    exact hne.symm
  · exact typeText_ne_of_capitalParts h ht hstring

theorem mem_capital_of_mem_builtIn {name : String} (h : CapitalParts name)
    (hm : name ∈ builtInNames) : name ∈ capitalBuiltInNames := by
  rcases List.mem_append.mp hm with hm | hm
  · obtain ⟨t, ht, rfl⟩ := List.mem_map.mp hm
    by_cases hstring : t = .string
    · rw [hstring]
      decide
    · exact absurd rfl (typeText_ne_of_capitalParts h ht hstring)
  · exact List.mem_cons_of_mem _ hm

theorem bracket_not_mem {name : String} (h : CapitalParts name) : '<' ∉ name.toList := by
  intro hm
  have hpart := h.wordParts.isPartChar_of_mem hm
  exact absurd hpart (by decide)

/-! ## types read back -/

theorem readType_name {models : ModelSet} {name : String} (h : CapitalParts name)
    {m : Model} (hm : models.get? name = some m) :
    readType models name.toList = some (if name = "String" then .string else m.type) := by
  rw [readType_of_inside?_eq_none (inside?_of_not_mem (bracket_not_mem h)), readLeaf]
  split
  · next he =>
    rw [he]
    rfl
  · next hne =>
    rw [builtIn?_of_capitalParts h hne, hm]
    rfl

theorem readType_typeText {models : ModelSet}
    (hn : ∀ name ∈ models.map Model.name, CapitalParts name) {t : TypeRef}
    (ht : models.Resolves t) : readType models (typeText t).toList = some t.asBuiltIn := by
  induction t with
  | boolean | integer | number | string | dateTime | any =>
    exact readType_of_inside?_eq_none rfl
  | classNamed name =>
    obtain ⟨c, hc⟩ := ht.1 name rfl
    obtain rfl : c.name = name := ModelSet.name_of_get? hc
    exact readType_name (hn c.name (ModelSet.mem_names_of_get? hc)) hc
  | enumNamed name =>
    obtain ⟨e, he⟩ := ht.2 name rfl
    obtain rfl : e.name = name := ModelSet.name_of_get? he
    exact readType_name (hn e.name (ModelSet.mem_names_of_get? he)) he
  | sequence element ih =>
    have hinside : inside? "Vec" (typeText (.sequence element)).toList =
        some (typeText element).toList := inside?_wrapped "Vec" (typeText element)
    rw [readType_of_inside? hinside, ih ht]
    rfl

theorem typeText_asBuiltIn (t : TypeRef) : typeText t.asBuiltIn = typeText t := by
  induction t with
  | classNamed name | enumNamed name =>
    rw [TypeRef.asBuiltIn]
    split
    · next he => exact he.symm
    · rfl
  | sequence element ih => rw [TypeRef.asBuiltIn, typeText, ih, typeText]
  | boolean | integer | number | string | dateTime | any => rfl

theorem typeText_eq_iff {models : ModelSet}
    (hn : ∀ name ∈ models.map Model.name, CapitalParts name) {t t' : TypeRef}
    (ht : models.Resolves t) (ht' : models.Resolves t') :
    typeText t = typeText t' ↔ t.asBuiltIn = t'.asBuiltIn := by
  constructor
  · intro he
    have hread := readType_typeText hn ht
    rw [he, readType_typeText hn ht'] at hread
    exact (Option.some.inj hread).symm
  · intro he
    rw [← typeText_asBuiltIn t, he, typeText_asBuiltIn]

/-! ## boxes -/

/-- the text without a box around it -/
def unboxed (text : String) : String :=
  ((inside? "Box" text.toList).map String.ofList).getD text

theorem unboxed_box (text : String) : unboxed ("Box<" ++ text ++ ">") = text := by
  have hinside : inside? "Box" ("Box<" ++ text ++ ">").toList = some text.toList :=
    inside?_wrapped "Box" text
  rw [unboxed, hinside, Option.map_some, String.ofList_toList, Option.getD_some]

theorem unboxed_of_inside?_eq_none {text : String} (h : inside? "Box" text.toList = none) :
    unboxed text = text := by
  rw [unboxed, h]
  rfl

theorem unboxed_typeText {t : TypeRef} (h : ∀ name, t.named? = some name → CapitalParts name) :
    unboxed (typeText t) = typeText t := by
  refine unboxed_of_inside?_eq_none ?_
  cases t with
  | boolean | integer | number | string | dateTime | any => rfl
  | classNamed name | enumNamed name => exact inside?_of_not_mem (bracket_not_mem (h name rfl))
  | sequence element =>
    rw [typeText, String.toList_append, String.toList_append]
    rfl

/-- All that the owner of a field changes about its type is a box around it. -/
theorem unboxed_fieldTypeText (models : ModelSet) (owner : String) {t : TypeRef}
    (h : ∀ name, t.named? = some name → CapitalParts name) :
    unboxed (fieldTypeText models owner t) = typeText t := by
  unfold fieldTypeText
  split
  · next name =>
    split
    · exact unboxed_box name
    · exact unboxed_typeText (t := .classNamed name) h
  · exact unboxed_typeText h

/-! ## the types of a run -/

theorem capitalParts_of_resolves {models : ModelSet}
    (hn : ∀ name ∈ models.map Model.name, CapitalParts name) {t : TypeRef}
    (ht : models.Resolves t) (name : String) (hname : t.named? = some name) :
    CapitalParts name := by
  rcases TypeRef.named?_eq_some_iff.mp hname with hl | hl
  · obtain ⟨c, hc⟩ := ht.1 name hl
    exact hn name (ModelSet.mem_names_of_get? hc)
  · obtain ⟨e, he⟩ := ht.2 name hl
    exact hn name (ModelSet.mem_names_of_get? he)

theorem asBuiltIn_of_resolves {models : ModelSet} (hn : "String" ∉ models.map Model.name)
    {t : TypeRef} (ht : models.Resolves t) : t.asBuiltIn = t := by
  refine TypeRef.asBuiltIn_of_leaf ⟨fun hl => ?_, fun hl => ?_⟩
  · obtain ⟨c, hc⟩ := ht.1 _ hl
    exact hn (ModelSet.mem_names_of_get? hc)
  · obtain ⟨e, he⟩ := ht.2 _ hl
    exact hn (ModelSet.mem_names_of_get? he)

/-- Of the names that are written for built-in types, models have `String`, `Vec`, `Option` and
`Box` at most. Two types of properties share a text, boxes apart, if and only if they are one or
differ by models called `String` in place of texts. So without such a model the text of a type is
that of no other one. -/
theorem type_texts_iff {r : Run} {models : ModelSet} (h : r.models = .ok models) :
    (∀ name ∈ models.map Model.name, name ∈ builtInNames → name ∈ capitalBuiltInNames) ∧
      ∀ c ∈ models.classes, ∀ p ∈ c.properties, ∀ c' ∈ models.classes, ∀ p' ∈ c'.properties,
        (unboxed (fieldTypeText models c.name p.type) =
            unboxed (fieldTypeText models c'.name p'.type) ↔
          p.type.asBuiltIn = p'.type.asBuiltIn) ∧
        ("String" ∉ models.map Model.name →
          unboxed (fieldTypeText models c.name p.type) =
            unboxed (fieldTypeText models c'.name p'.type) → p.type = p'.type) := by
  have hn := capitalParts_of_models h
  refine ⟨fun name hm => mem_capital_of_mem_builtIn (hn name hm), ?_⟩
  intro c hc p hp c' hc' p' hp'
  have ht := resolves_of_models h hc hp
  have ht' := resolves_of_models h hc' hp'
  rw [unboxed_fieldTypeText models c.name (capitalParts_of_resolves hn ht),
    unboxed_fieldTypeText models c'.name (capitalParts_of_resolves hn ht'),
    typeText_eq_iff hn ht ht']
  refine ⟨Iff.rfl, fun hstring he => ?_⟩
  rwa [asBuiltIn_of_resolves hstring ht, asBuiltIn_of_resolves hstring ht'] at he

/-! ## two runs -/

/-- a class that holds itself, and one that holds it -/
def chainRun : Run where
  graph := ⟨#[
    { reference := some (.fragment "#/definitions/Node"),
      pointer := ["definitions", "Node", "properties", "next"] },
    { type := some .object, properties := [("next", 0)], pointer := ["definitions", "Node"] },
    { reference := some (.fragment "#/definitions/Node"), pointer := ["properties", "first"] },
    { type := some .object, definitions := [("Node", 1)], properties := [("first", 2)] }]⟩
  hints := {}
  settings := { namespaceName := "N", rootClassName := "Record" }

def chainNode : ClassModel :=
  ⟨"N", "Node", none, [⟨"Next", "next", .classNamed "Node", false, none⟩], false⟩

def chainRecord : ClassModel :=
  ⟨"N", "Record", none, [⟨"First", "first", .classNamed "Node", false, none⟩], false⟩

/-- The class is written with a box in its own field and without one in the other field. -/
theorem type_texts_of_chainRun :
    chainRun.models = .ok [.ofClass chainNode, .ofClass chainRecord] ∧
    fieldTypeText [.ofClass chainNode, .ofClass chainRecord] "Node" (.classNamed "Node") =
      "Box<Node>" ∧
    fieldTypeText [.ofClass chainNode, .ofClass chainRecord] "Record" (.classNamed "Node") =
      "Node" ∧
    unboxed "Box<Node>" = unboxed "Node" := by
  have hmodels : chainRun.models = .ok [.ofClass chainNode, .ofClass chainRecord] :=
    Run.models_of_within rfl rfl (by with_unfolding_all rfl)
  have hnode : fieldTypeText [.ofClass chainNode, .ofClass chainRecord] "Node"
      (.classNamed "Node") = "Box<Node>" := by cbv
  have hrecord : fieldTypeText [.ofClass chainNode, .ofClass chainRecord] "Record"
      (.classNamed "Node") = "Node" := by cbv
  have htexts : unboxed (fieldTypeText [.ofClass chainNode, .ofClass chainRecord] "Node"
      (.classNamed "Node")) = unboxed (fieldTypeText [.ofClass chainNode, .ofClass chainRecord]
      "Record" (.classNamed "Node")) :=
    ((type_texts_iff hmodels).2 chainNode (by decide) _ List.mem_cons_self
      chainRecord (by decide) _ List.mem_cons_self).1.mpr rfl
  rw [hnode, hrecord] at htexts
  exact ⟨hmodels, hnode, hrecord, htexts⟩

def capitalText : String :=
  "\x7b\"properties\":\x7b\"a\":\x7b\"type\":\"string\"\x7d," ++
  "\"b\":\x7b\"$ref\":\"#/definitions/string\"\x7d\x7d," ++
  "\"definitions\":\x7b\"string\":\x7b\"type\":\"object\"\x7d,\"vec\":\x7b\"type\":\"object\"\x7d," ++
  "\"option\":\x7b\"type\":\"object\"\x7d,\"box\":\x7b\"type\":\"object\"\x7d\x7d\x7d"

/-- definitions under the names of built-in types, and a property for texts beside one for the
class of this name -/
def capitalDocument : Json :=
  .object [
    ("properties", .object [("a", .object [("type", .string "string")]),
      ("b", .object [("$ref", .string "#/definitions/string")])]),
    ("definitions", .object [
      ("string", .object [("type", .string "object")]),
      ("vec", .object [("type", .string "object")]),
      ("option", .object [("type", .string "object")]),
      ("box", .object [("type", .string "object")])])]

def capitalRecord : ClassModel :=
  ⟨"N", "Record", none, [⟨"A", "a", .string, false, none⟩,
    ⟨"B", "b", .classNamed "String", false, none⟩], false⟩

def capitalModels : ModelSet := [
  .ofClass ⟨"N", "String", none, [], false⟩, .ofClass capitalRecord,
  .ofClass ⟨"N", "Vec", none, [], false⟩, .ofClass ⟨"N", "Option", none, [], false⟩,
  .ofClass ⟨"N", "Box", none, [], false⟩]

set_option maxRecDepth 2000 in
/-- A class can have each of the four names, and `String` stands for two types in one class. -/
theorem shared_text_of_string : Json.read capitalText = .ok capitalDocument ∧
    ∃ g, Graph.ofJson capitalDocument = .ok g ∧
      Run.models ⟨g, {}, { namespaceName := "N", rootClassName := "Record" }⟩ =
        .ok capitalModels ∧
      (∀ name ∈ capitalBuiltInNames, name ∈ capitalModels.map Model.name) ∧
      capitalRecord ∈ capitalModels.classes ∧
      (TypeRef.string ≠ .classNamed "String") ∧
      unboxed (fieldTypeText capitalModels "Record" .string) =
        unboxed (fieldTypeText capitalModels "Record" (.classNamed "String")) := by
  have hread : Json.read capitalText = .ok capitalDocument := by
    unfold Json.read capitalText
    simp only [String.toList_append]
    repeat rw [String.toList_ofList]
    rfl
  refine ⟨hread, ?_⟩
  obtain ⟨g, hg⟩ : ∃ g, Graph.ofJson capitalDocument = .ok g := ⟨_, rfl⟩
  refine ⟨g, hg, ?_, by decide, by decide, by decide, by cbv⟩
  cases hg
  exact Run.models_of_within rfl rfl (by with_unfolding_all rfl)

end Source

end SchemaModel
