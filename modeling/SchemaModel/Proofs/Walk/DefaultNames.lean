import Mathlib
import SchemaModel.Proofs.Walk.ArrayCycles
import SchemaModel.Proofs.Walk.EnumNames
import SchemaModel.Proofs.Walk.Guarded

/-!
# What models are called without hints

Without hints a model is called by its definition, whatever the site where the walk reaches it
first. An object that is no definition is called by the site: by the key of a property or of a
definition of the root, with one ending for every array between that key and the object. A site
grows by the ending at an array and starts anew at a property, so it always tells from which key
its node is reached, and over how many arrays.

* `NamedAt.name_without_hints`   the name of a model by its definition or by the site;
* `source_of_way`                a site tells the key behind it, and the arrays since then;
* `class_of_root`                the class of the root, which is reached first;
* `name_of_inline`               a class that is no definition, by a key and the arrays;
* `default_names`                the names of all models of a run without hints.
-/

namespace SchemaModel

/-- so many steps from arrays to what their items stand for -/
inductive Graph.ItemsSteps (g : Graph) : Nat → NodeId → NodeId → Prop
  | refl (id : NodeId) : ItemsSteps g 0 id id
  | tail {k a b c} (h : ItemsSteps g k a b) (hs : g.ItemsStep b c) : ItemsSteps g (k + 1) a c

/-- the ending of a name behind so many arrays -/
def itemsEnding (k : Nat) : String := String.join (List.replicate k "Item")

@[simp] theorem itemsEnding_zero : itemsEnding 0 = "" := rfl

theorem itemsEnding_succ (k : Nat) : itemsEnding (k + 1) = itemsEnding k ++ "Item" := by
  rw [itemsEnding, List.replicate_succ', String.join_append]
  rfl

/-! ## without hints -/

@[simp] theorem Hints.findFirst?_empty {variant : Hint → Option α} (keys : List String) :
    ({} : Hints).findFirst? variant keys = none :=
  List.findSome?_eq_none_iff.mpr fun _ _ => rfl

namespace Run

section
variable {r : Run} {site : Site} {id : NodeId} {m : Model}

/-- An object that is not the root is called by its definition or else by the site. -/
theorem className_without_hints (hroot : id ≠ r.graph.root) :
    className r.graph {} site id =
      ((r.graph.node id).pointer.definition?.map Naming.typeName).getD site.inlineName := by
  rw [className, if_neg hroot, classKeys]
  dsimp only
  rw [Hints.findFirst?_empty]
  cases (r.graph.node id).pointer.definition? with
  | none => rfl
  | some raw => rw [Option.map_some, Option.getD_some]

/-- Without hints an enumeration has the name of a definition. -/
theorem NamedAt.definition_of_enum {e : EnumModel} (h : r.NamedAt site id (.ofEnum e))
    (hh : r.hints = {}) :
    (r.graph.node id).pointer.definition?.map Naming.typeName = some e.name := by
  cases h with
  | ofEnum hs he =>
    have hname := EnumSite.name_of_synthesize he
    rw [EnumSite.hint?, hh, Hints.findFirst?_empty] at hname
    exact hname

/-- Without hints a model has the name of its definition or else that of the site, but for the
root. -/
theorem NamedAt.name_without_hints (h : r.NamedAt site id m) (hh : r.hints = {})
    (hroot : id ≠ r.graph.root) :
    m.name = ((r.graph.node id).pointer.definition?.map Naming.typeName).getD site.inlineName := by
  cases h with
  | ofClass hn => rw [← className_without_hints hroot, ← hh]; exact hn
  | ofEnum hs he =>
    rw [(NamedAt.ofEnum hs he).definition_of_enum hh, Option.getD_some]
    rfl

end

/-! ## the key of a site -/

/-- A key is one from which the walk goes on to a node, over references only: that of a property of
a class, or of a definition of the root. -/
inductive Source (r : Run) : String → NodeId → Prop
  | property {owner c p child start} (hc : r.ModelOf owner (.ofClass c)) (hp : p ∈ c.properties)
      (hd : (p.jsonName, child) ∈ (r.graph.node owner).properties)
      (hf : r.graph.follow child = .ok start) : Source r p.jsonName start
  | definition {key child start} (hd : (key, child) ∈ (r.graph.node r.graph.root).definitions)
      (hf : r.graph.follow child = .ok start) : Source r key start

/-- The walk stands at nodes without references. -/
theorem Way.reference_eq_none {r : Run} {ν : NodeId → Option String} {site : Site} {id : NodeId}
    (h : r.Way ν site id) (hroot : r.rootIsObject = true) :
    (r.graph.node id).reference = none := by
  cases h with
  | root => exact reference_of_rootIsObject hroot
  | definition _ hr => exact hr
  | property _ _ _ hf | items _ _ hf => exact Graph.reference_of_follow hf

/-- A site that is not that of the root itself tells the key behind it and the number of arrays
since then. -/
theorem source_of_way {r : Run} {done : Finished} (h : r.walk = .ok done)
    (hroot : r.rootIsObject = true) {site : Site} {id : NodeId}
    (hw : r.Way (givenName? {} done) site id) (hid : id ≠ r.graph.root) :
    ∃ key start k, r.Source key start ∧ r.graph.ItemsSteps k start id ∧
      site.inlineName = Naming.typeName key ++ itemsEnding k := by
  induction hw with
  | root => exact absurd rfl hid
  | @definition d hd hr =>
    refine ⟨d.1, d.2, 0, .definition hd (Graph.follow_self hr), .refl _, ?_⟩
    rw [definitionSite, itemsEnding_zero, String.append_empty]
  | @property owner name properties declared target hs hn hp hf =>
    obtain ⟨c, hc, -, hall⟩ := class_of_given (distinct_of_walk h) (described_of_walk h) hs hn
    obtain ⟨p, hp', hdecl⟩ := mem_of_forall₂ hall.flip declared hp
    have hd : (p.jsonName, declared.2) ∈ (r.graph.node owner).properties := by
      rw [hdecl.jsonName, Graph.properties_of_shape hs]
      exact hp
    have hsource := Source.property ⟨done, h, hc⟩ hp' hd hf
    rw [hdecl.jsonName] at hsource
    refine ⟨declared.1, target, 0, hsource, .refl _, ?_⟩
    rw [Site.ofProperty, itemsEnding_zero, String.append_empty]
  | @items site id items target hw hs hf ih =>
    have hnot : id ≠ r.graph.root := by
      rintro rfl
      obtain ⟨_, hobject⟩ := shape_of_rootIsObject hroot
      cases hs.symm.trans hobject
    obtain ⟨key, start, k, hsource, hsteps, hname⟩ := ih hnot
    have hstep : r.graph.ItemsStep id target := ⟨items, hw.reference_eq_none hroot, hs, hf⟩
    refine ⟨key, start, k + 1, hsource, hsteps.tail hstep, ?_⟩
    rw [Site.items, hname, itemsEnding_succ, String.append_assoc]

/-! ## the names of a run -/

/-- A node has one model. -/
theorem ModelOf.unique {r : Run} {id : NodeId} {m m' : Model} (h : r.ModelOf id m)
    (h' : r.ModelOf id m') : m = m' := by
  obtain ⟨done, hw, hm⟩ := h
  obtain ⟨done', hw', hm'⟩ := h'
  cases hw.symm.trans hw'
  exact congrArg Prod.snd
    (List.inj_on_of_nodup_map (distinct_of_walk hw).finished_nodes hm hm' rfl)

/-- The models are those of the nodes. -/
theorem mem_models_iff {r : Run} {models : ModelSet} (h : r.models = .ok models) (m : Model) :
    m ∈ models ↔ ∃ id, r.ModelOf id m := by
  obtain ⟨-, done, hw, rfl⟩ := models_ok h
  constructor
  · intro hm
    obtain ⟨⟨id, _⟩, he, rfl⟩ := List.mem_map.mp hm
    exact ⟨id, done, hw, he⟩
  · rintro ⟨id, done', hw', he⟩
    cases hw.symm.trans hw'
    exact List.mem_map_of_mem he

/-- The root is reached before all other nodes, so its class has the name in the settings. -/
theorem class_of_root {r : Run} {models : ModelSet} (h : r.models = .ok models) :
    ∃ c, r.ModelOf r.graph.root (.ofClass c) ∧
      c.name = Naming.typeName r.settings.rootClassName := by
  obtain ⟨hroot, done, hw, -⟩ := models_ok h
  obtain ⟨properties, hs⟩ := shape_of_rootIsObject hroot
  obtain ⟨t, done₀, ht, hd⟩ := walk_ok hw
  cases ht with
  | oldEnum hs' | newEnum hs' | items hs' => cases hs.symm.trans hs'
  | plain hs' => rw [hs] at hs'; cases hs'
  | oldClass _ hg => cases hg
  | @newClass _ _ _ _ _ name types done' hs' hg hn ho hp =>
    have hentry := hd.keeps_done.subset (List.mem_append_right done' List.mem_cons_self)
    rw [className, if_pos rfl] at hn
    dsimp only [rootSite] at hn
    exact ⟨r.classModel name r.graph.root types, ⟨done, hw, hentry⟩, hn.symm⟩

section
variable {document : Json} {r : Run} {id : NodeId}

/-- The model of a definition is called by its key. -/
theorem name_of_definition (hd : document.Distinct) (hg : Graph.ofJson document = .ok r.graph)
    (hh : r.hints = {}) {m : Model} (hm : r.ModelOf id m) {outer : NodeId} {raw : String}
    (ho : r.graph.Addressed outer) (hraw : (raw, id) ∈ (r.graph.node outer).definitions) :
    m.name = Naming.typeName raw := by
  obtain ⟨done, hw, hm⟩ := hm
  obtain ⟨site, -, -, hnamed⟩ := firstSite_of_walk hw hm
  have hdef := Graph.definition?_of_addressed hd hg ho hraw
  obtain ⟨-, hnotroot, -⟩ := (Graph.definition?_eq_some_iff hd hg).mp hdef
  rw [hnamed.name_without_hints hh hnotroot, hdef, Option.map_some, Option.getD_some]

/-- An enumeration is a definition. -/
theorem definition_of_enumeration (hd : document.Distinct)
    (hg : Graph.ofJson document = .ok r.graph) (hh : r.hints = {}) {e : EnumModel}
    (hm : r.ModelOf id (.ofEnum e)) : ∃ outer raw, r.graph.Addressed outer ∧
      (raw, id) ∈ (r.graph.node outer).definitions := by
  obtain ⟨done, hw, hm⟩ := hm
  obtain ⟨site, -, -, hnamed⟩ := firstSite_of_walk hw hm
  obtain ⟨raw, hdef, -⟩ := Option.map_eq_some_iff.mp (hnamed.definition_of_enum hh)
  obtain ⟨haddressed, hnotroot, -⟩ := (Graph.definition?_eq_some_iff hd hg).mp hdef
  cases haddressed with
  | root => exact absurd rfl hnotroot
  | @definition outer name _ ho hm => exact ⟨outer, name, ho, hm⟩

/-- A class that is no definition is called by the site where its node is first reached. -/
theorem name_of_inline (hd : document.Distinct) (hg : Graph.ofJson document = .ok r.graph)
    (hh : r.hints = {}) (hroot : r.rootIsObject = true) {c : ClassModel}
    (hm : r.ModelOf id (.ofClass c)) (hinline : ¬ r.graph.Addressed id) :
    ∃ key start k, r.Source key start ∧ r.graph.ItemsSteps k start id ∧
      c.name = Naming.typeName key ++ itemsEnding k := by
  obtain ⟨done, hw, hm⟩ := hm
  obtain ⟨site, -, hway, hnamed⟩ := firstSite_of_walk hw hm
  have hnotroot : id ≠ r.graph.root := fun he => hinline (he ▸ .root)
  have hdef : (r.graph.node id).pointer.definition? = none := by
    by_contra hne
    obtain ⟨raw, hraw⟩ := Option.ne_none_iff_exists'.mp hne
    exact hinline ((Graph.definition?_eq_some_iff hd hg).mp hraw).1
  have hname : (Model.ofClass c).name = site.inlineName := by
    rw [hnamed.name_without_hints hh hnotroot, hdef, Option.map_none, Option.getD_none]
  obtain ⟨key, start, k, hsource, hsteps, hsite⟩ := source_of_way hw hroot hway hnotroot
  exact ⟨key, start, k, hsource, hsteps, hname.trans hsite⟩

end

/-- The names of a run without hints. The class of the root is called as the settings say, and the
model of any other definition that references can address by its key. All enumerations are such
definitions. Any other class is called by the key of a property of a class, or of a definition of
the root, from which its node is reached over references and items of arrays, with one ending for
each of these arrays. -/
theorem default_names {document : Json} {r : Run} {models : ModelSet} (hd : document.Distinct)
    (hg : Graph.ofJson document = .ok r.graph) (hh : r.hints = {}) (h : r.models = .ok models) :
    (∀ m, m ∈ models ↔ ∃ id, r.ModelOf id m) ∧
    (∃ c, (∀ m, r.ModelOf r.graph.root m ↔ m = .ofClass c) ∧
      c.name = Naming.typeName r.settings.rootClassName) ∧
    (∀ id m outer raw, r.ModelOf id m → r.graph.Addressed outer →
      (raw, id) ∈ (r.graph.node outer).definitions → m.name = Naming.typeName raw) ∧
    (∀ id e, r.ModelOf id (.ofEnum e) → ∃ outer raw, r.graph.Addressed outer ∧
      (raw, id) ∈ (r.graph.node outer).definitions) ∧
    (∀ id c, r.ModelOf id (.ofClass c) → ¬ r.graph.Addressed id → ∃ key start k,
      r.Source key start ∧ r.graph.ItemsSteps k start id ∧
        c.name = Naming.typeName key ++ itemsEnding k) := by
  obtain ⟨c, hc, hname⟩ := class_of_root h
  have hone : ∀ m, r.ModelOf r.graph.root m ↔ m = .ofClass c :=
    fun m => ⟨fun hm => hm.unique hc, fun he => he ▸ hc⟩
  refine ⟨mem_models_iff h, ⟨c, hone, hname⟩, fun id m outer raw hm ho hraw => ?_,
    fun id e hm => ?_, fun id c hm hinline => ?_⟩
  · exact name_of_definition hd hg hh hm ho hraw
  · exact definition_of_enumeration hd hg hh hm
  · exact name_of_inline hd hg hh (models_ok h).1 hm hinline

/-! ## an example -/

def listText : String :=
  "\x7b\"properties\":\x7b" ++
  "\"b\":\x7b\"type\":\"array\",\"items\":\x7b\"$ref\":\"#/definitions/l\"\x7d\x7d," ++
  "\"a\":\x7b\"$ref\":\"#/definitions/l\"\x7d\x7d," ++
  "\"definitions\":\x7b" ++
  "\"l\":\x7b\"type\":\"array\",\"items\":\x7b\"type\":\"object\"\x7d\x7d," ++
  "\"E\":\x7b\"enum\":[\"x\"]\x7d," ++
  "\"m\":\x7b\"type\":\"array\",\"items\":\x7b\"type\":\"object\"\x7d\x7d\x7d\x7d"

/-- An array that two properties share, first reached as the items of another one, and an array that
is reached from no property. -/
def listDocument : Json :=
  .object [
    ("properties", .object [
      ("b", .object [("type", .string "array"),
        ("items", .object [("$ref", .string "#/definitions/l")])]),
      ("a", .object [("$ref", .string "#/definitions/l")])]),
    ("definitions", .object [
      ("l", .object [("type", .string "array"), ("items", .object [("type", .string "object")])]),
      ("E", .object [("enum", .array [.string "x"])]),
      ("m", .object [("type", .string "array"), ("items", .object [("type", .string "object")])])])]

def listGraph : Graph := ⟨#[
  { reference := some (.fragment "#/definitions/l"), pointer := ["properties", "b", "items"] },
  { type := some .array, items := some 0, pointer := ["properties", "b"] },
  { reference := some (.fragment "#/definitions/l"), pointer := ["properties", "a"] },
  { type := some .object, pointer := ["definitions", "l", "items"] },
  { type := some .array, items := some 3, pointer := ["definitions", "l"] },
  { values := some ["x"], pointer := ["definitions", "E"] },
  { type := some .object, pointer := ["definitions", "m", "items"] },
  { type := some .array, items := some 6, pointer := ["definitions", "m"] },
  { properties := [("b", 1), ("a", 2)], definitions := [("l", 4), ("E", 5), ("m", 7)] }]⟩

def listRun : Run where
  graph := listGraph
  hints := {}
  settings := { namespaceName := "N", rootClassName := "r" }

def sharedItems : ClassModel := ⟨"N", "BItemItem", none, [], false⟩

def loneItems : ClassModel := ⟨"N", "MItem", none, [], false⟩

def listEnum : EnumModel := ⟨"N", "E", none, [⟨"X", some "x"⟩]⟩

def listFinished : Finished := [
  (3, .ofClass sharedItems),
  (8, .ofClass ⟨"N", "R", none,
    [⟨"B", "b", .sequence (.sequence (.classNamed "BItemItem")), false, none⟩,
      ⟨"A", "a", .sequence (.classNamed "BItemItem"), false, none⟩], false⟩),
  (5, .ofEnum listEnum),
  (6, .ofClass loneItems)]

theorem walk_listRun : listRun.walk = .ok listFinished :=
  walk_of_within rfl (by with_unfolding_all rfl)

set_option maxRecDepth 2000 in
/-- The objects in both arrays are called by the keys of a property and of a definition of the root,
over two arrays and over one. -/
theorem names_of_listRun : Json.read listText = .ok listDocument ∧
    Graph.ofJson listDocument = .ok listGraph ∧ listRun.hints = {} ∧
    listRun.models = .ok (listFinished.map Prod.snd) ∧
    (∃ c, (∀ m, listRun.ModelOf listGraph.root m ↔ m = .ofClass c) ∧
      c.name = Naming.typeName "r") ∧
    (∃ outer raw, listGraph.Addressed outer ∧ (raw, 5) ∈ (listGraph.node outer).definitions) ∧
    "E" = Naming.typeName "E" ∧
    (∃ key start k, listRun.Source key start ∧ listGraph.ItemsSteps k start 3 ∧
      "BItemItem" = Naming.typeName key ++ itemsEnding k) ∧
    ∃ key start k, listRun.Source key start ∧ listGraph.ItemsSteps k start 6 ∧
      "MItem" = Naming.typeName key ++ itemsEnding k := by
  have hread : Json.read listText = .ok listDocument := by
    unfold Json.read listText
    simp only [String.toList_append]
    repeat rw [String.toList_ofList]
    rfl
  have hd := Json.distinct_of_read hread
  have hg : Graph.ofJson listDocument = .ok listGraph := rfl
  have hmodels := models_of_walk rfl (by decide) walk_listRun
  have hshared : listRun.ModelOf 3 (.ofClass sharedItems) :=
    ⟨listFinished, walk_listRun, by decide⟩
  have hlone : listRun.ModelOf 6 (.ofClass loneItems) := ⟨listFinished, walk_listRun, by decide⟩
  have henum : listRun.ModelOf 5 (.ofEnum listEnum) := ⟨listFinished, walk_listRun, by decide⟩
  have hinline : ¬ listGraph.Addressed 3 ∧ ¬ listGraph.Addressed 6 := by
    rw [Graph.addressed_iff hd hg, Graph.addressed_iff hd hg]
    decide
  obtain ⟨-, hroot, hdefinitions, henums, hothers⟩ :=
    default_names (r := listRun) hd hg rfl hmodels
  have he : ("E", 5) ∈ (listGraph.node listGraph.root).definitions := by decide
  exact ⟨hread, hg, rfl, hmodels, hroot, henums 5 listEnum henum,
    hdefinitions 5 _ _ _ henum .root he, hothers 3 sharedItems hshared hinline.1,
    hothers 6 loneItems hlone hinline.2⟩

end Run

end SchemaModel
