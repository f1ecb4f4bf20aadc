import Mathlib
import SchemaModel.Proofs.Walk.EnumNames

/-!
# What the classes of definitions are called

A definition is looked up for the hint of a class as for that of an enumeration, but for one key:
the property through which it is first reached is not asked. So a hint for a class that is recorded
under a property is passed over where the property refers to a definition, although an enumeration
would take a hint from there, before those under its own key. This is seen as soon as that hint
gives another name, and only then.

* `classKeys_of_definition`    the keys of a class are those of an enumeration without a property;
* `className_of_definition`    the name of a class by the hints under its own keys;
* `classes_named_by_hints`     the classes of a run, and when the property would name them as well.
-/

namespace SchemaModel

/-- The name of a definition by the hints for classes under some keys: that of the first one, or
its own. -/
def nameUnder (hints : Hints) (raw : String) (keys : List String) : String :=
  Naming.typeName (((hints.findFirst? Hint.className? keys).map Prod.snd).getD raw)

theorem nameUnder_cons (hints : Hints) (raw key : String) (keys : List String) :
    nameUnder hints raw (key :: keys) = match hints.find? Hint.className? key with
      | some hinted => Naming.typeName hinted
      | none => nameUnder hints raw keys := by
  rw [nameUnder, Hints.findFirst?, List.findSome?_cons]
  cases hints.find? Hint.className? key <;> rfl

namespace Run

section
variable {r : Run} {site : Site} {id : NodeId} {raw : String}

/-- The keys of a class are those of an enumeration that is reached through no property. -/
theorem classKeys_of_definition (hdef : (r.graph.node id).pointer.definition? = some raw) :
    classKeys r.graph site id = (Naming.typeName raw,
      EnumSite.hintKeys { r.enumSite site id [] with propertyKey := none }) := by
  have hdef' : (r.enumSite site id []).definition = some raw := hdef
  rw [classKeys, hdef, EnumSite.hintKeys, hdef']
  simp

/-- The class of a definition is named by the hints under its own keys. -/
theorem className_of_definition (hdef : (r.graph.node id).pointer.definition? = some raw)
    (hroot : id ≠ r.graph.root) :
    className r.graph r.hints site id = nameUnder r.hints raw [raw, Naming.typeName raw] := by
  have hfirst : r.hints.findFirst? Hint.className?
      (EnumSite.hintKeys { r.enumSite site id [] with propertyKey := none }) =
      r.hints.findFirst? Hint.className? [raw, Naming.typeName raw] :=
    EnumSite.findFirst?_hintKeys hdef
  rw [className, if_neg hroot, classKeys_of_definition hdef]
  dsimp only
  rw [hfirst, nameUnder]
  cases r.hints.findFirst? Hint.className? [raw, Naming.typeName raw] with
  | none => rfl
  | some found => rfl

/-- An object that is reached has a class, which is named at the site. -/
theorem class_of_firstSite {done : Finished} (hw : r.walk = .ok done)
    (hsite : r.firstSite? id = some site) {properties : List (String × NodeId)}
    (hs : (r.graph.node id).shape = .object properties) :
    ∃ c, (id, .ofClass c) ∈ done ∧ c.name = className r.graph r.hints site id := by
  obtain ⟨m, hm, hnamed⟩ := model_of_firstSite hw hsite
  cases hnamed with
  | @ofClass c hname => exact ⟨c, hm, hname⟩
  | ofEnum henum => cases hs.symm.trans henum

end

/-- The class of a definition that is reached is called by the first hint for classes under its key
or under its name as a type, and by its key if there is none. The keys under which the hint of an
enumeration would be looked up are those and the key of the property through which it is first
reached. All these keys give another name exactly if the first hint for classes under this property
does. -/
theorem classes_named_by_hints {document : Json} {r : Run} {models : ModelSet} {id outer : NodeId}
    {site : Site} {properties : List (String × NodeId)} {raw : String} (hd : document.Distinct)
    (hg : Graph.ofJson document = .ok r.graph) (h : r.models = .ok models)
    (hsite : r.firstSite? id = some site) (hs : (r.graph.node id).shape = .object properties)
    (ho : r.graph.Addressed outer) (hm : (raw, id) ∈ (r.graph.node outer).definitions) :
    ∃ c ∈ models.classes, r.ModelOf id (.ofClass c) ∧
      c.name = nameUnder r.hints raw [raw, Naming.typeName raw] ∧
      (c.name = nameUnder r.hints raw (r.enumSite site id []).hintKeys ↔
        ∀ key ∈ site.propertyKey, ∀ hinted ∈ r.hints.find? Hint.className? key,
          c.name = Naming.typeName hinted) := by
  obtain ⟨-, done, hw, rfl⟩ := models_ok h
  obtain ⟨c, hc, hname⟩ := class_of_firstSite hw hsite hs
  have hdef := Graph.definition?_of_addressed hd hg ho hm
  obtain ⟨-, hnotroot, -⟩ := (Graph.definition?_eq_some_iff hd hg).mp hdef
  rw [className_of_definition hdef hnotroot] at hname
  refine ⟨c, mem_classes.mpr ⟨id, hc⟩, ⟨done, hw, hc⟩, hname, ?_⟩
  have hkeys : nameUnder r.hints raw (r.enumSite site id []).hintKeys =
      nameUnder r.hints raw (site.propertyKey.toList ++ [raw, Naming.typeName raw]) := by
    rw [nameUnder, EnumSite.findFirst?_hintKeys hdef]
    rfl
  rw [hkeys]
  cases site.propertyKey with
  | none => simp [hname]
  | some key =>
    rw [Option.toList_some, List.singleton_append, nameUnder_cons]
    cases hfind : r.hints.find? Hint.className? key with
    | none => simp [hname, hfind]
    | some hinted => simp [hfind]

/-! ## an example -/

def partText : String :=
  "\x7b\"properties\":\x7b\"a\":\x7b\"$ref\":\"#/definitions/b\"\x7d\x7d," ++
  "\"definitions\":\x7b\"b\":\x7b\"type\":\"object\"\x7d\x7d\x7d"

/-- a definition that is reached through a property -/
def partDocument : Json :=
  .object [
    ("properties", .object [("a", .object [("$ref", .string "#/definitions/b")])]),
    ("definitions", .object [("b", .object [("type", .string "object")])])]

def partGraph : Graph := ⟨#[
  { reference := some (.fragment "#/definitions/b"), pointer := ["properties", "a"] },
  { type := some .object, pointer := ["definitions", "b"] },
  { properties := [("a", 0)], definitions := [("b", 1)] }]⟩

/-- One hint stands under the property, and one under the key of the definition. -/
def partRun : Run where
  graph := partGraph
  hints := ⟨[("Record.A", .className "X"), ("b", .className "Y")]⟩
  settings := { namespaceName := "N", rootClassName := "Record" }

def partFinished : Finished := [
  (1, .ofClass ⟨"N", "Y", none, [], false⟩),
  (2, .ofClass ⟨"N", "Record", none, [⟨"A", "a", .classNamed "Y", false, none⟩], false⟩)]

theorem ofJson_part : Json.read partText = .ok partDocument ∧
    Graph.ofJson partDocument = .ok partGraph := by
  refine ⟨?_, rfl⟩
  unfold Json.read partText
  simp only [String.toList_append]
  repeat rw [String.toList_ofList]
  rfl

theorem walk_partRun : partRun.walk = .ok partFinished :=
  walk_of_within rfl (by with_unfolding_all rfl)

theorem models_partRun : partRun.models = .ok (partFinished.map Prod.snd) :=
  models_of_walk rfl (by decide) walk_partRun

theorem firstSite_partRun : partRun.firstSite? 1 = some ⟨some "Record.A", "A"⟩ := by cbv

/-- The class is called by the hint under its own key, and not by the one under the property. -/
theorem class_names_of_partRun : Json.read partText = .ok partDocument ∧
    Graph.ofJson partDocument = .ok partGraph ∧
    partRun.models = .ok (partFinished.map Prod.snd) ∧
    ("b", 1) ∈ (partGraph.node partGraph.root).definitions ∧
    ∃ c, partRun.ModelOf 1 (.ofClass c) ∧ c.name = "Y" ∧
      c.name ≠ nameUnder partRun.hints "b"
        (partRun.enumSite ⟨some "Record.A", "A"⟩ 1 []).hintKeys := by
  obtain ⟨hread, hg⟩ := ofJson_part
  have hb : ("b", 1) ∈ (partGraph.node partGraph.root).definitions := by decide
  obtain ⟨c, -, hmodel, hname, hagree⟩ := classes_named_by_hints (r := partRun)
    (Json.distinct_of_read hread) hg models_partRun firstSite_partRun rfl .root hb
  have hY : c.name = "Y" := hname.trans (by decide)
  refine ⟨hread, hg, models_partRun, hb, c, hmodel, hY, fun hsame => ?_⟩
  have hX : c.name = Naming.typeName "X" := hagree.mp hsame _ rfl _ rfl
  rw [hY] at hX
  exact absurd hX (by decide)

/-- The first hint for the definition stands under the property through which it is reached, and its
class is not called by it. -/
theorem class_not_named_by_property : Json.read partText = .ok partDocument ∧
    Graph.ofJson partDocument = .ok partGraph ∧
    partRun.models = .ok (partFinished.map Prod.snd) ∧
    partRun.firstSite? 1 = some ⟨some "Record.A", "A"⟩ ∧
    ("b", 1) ∈ (partGraph.node partGraph.root).definitions ∧
    partRun.hints.findFirst? Hint.className?
      (partRun.enumSite ⟨some "Record.A", "A"⟩ 1 []).hintKeys = some ("Record.A", "X") ∧
    ∃ c, partRun.ModelOf 1 (.ofClass c) ∧ c.name = "Y" ∧ c.name ≠ Naming.typeName "X" :=
  ⟨ofJson_part.1, ofJson_part.2, models_partRun, firstSite_partRun, by decide, rfl, _,
    ⟨partFinished, walk_partRun, List.mem_cons_self⟩, rfl, by decide⟩

end Run

end SchemaModel
