import Mathlib
import SchemaModel.Proofs.Walk.Denotation
import SchemaModel.Proofs.Walk.Depth

/-!
# The names in types

A class is named in the types of its properties before it has a model. When the walk ends, no class
is open, so every name that a type holds is that of a finished model, and the model is of the kind
that the type says.

* `class_of_given`              a named node of an object has a class;
* `names_distinct_and_resolved`   names are distinct, and every name in a type has its model.
-/

namespace SchemaModel

namespace Run

/-- The run ends well, and `m` is what it makes of the node. -/
def ModelOf (r : Run) (id : NodeId) (m : Model) : Prop :=
  ∃ done, r.walk = .ok done ∧ (id, m) ∈ done

variable {r : Run} {done : Finished} {id : NodeId} {name : String}

theorem entry_of_given (hd : Distinct (namesGiven {} done))
    (hn : givenName? {} done id = some name) : ∃ m, (id, m) ∈ done ∧ m.name = name := by
  rw [givenName?_eq_some_iff hd] at hn
  obtain ⟨⟨i, m⟩, hm, he⟩ := List.mem_map.mp hn
  cases he
  exact ⟨m, hm, rfl⟩

/-- A node of an object that has a name at the end of a walk has a class of this name. -/
theorem class_of_given (hd : Distinct (namesGiven {} done)) (hm : Described r {} done)
    {properties : List (String × NodeId)} (hs : (r.graph.node id).shape = .object properties)
    (hn : givenName? {} done id = some name) :
    ∃ c, (id, .ofClass c) ∈ done ∧ c.name = name ∧
      List.Forall₂ (DeclaredAs r.graph (givenName? {} done) id) properties c.properties := by
  obtain ⟨m, he, hname⟩ := entry_of_given hd hn
  cases hm _ he with
  | ofEnum hs' => cases hs.symm.trans hs'
  | @ofClass c _ hs' _ _ _ hp =>
    cases hs.symm.trans hs'
    exact ⟨c, he, hname, hp⟩

theorem enum_of_given (hd : Distinct (namesGiven {} done)) (hm : Described r {} done)
    {values : List String} (hs : (r.graph.node id).shape = .enumeration values)
    (hn : givenName? {} done id = some name) : ∃ e, (id, .ofEnum e) ∈ done ∧ e.name = name := by
  obtain ⟨m, he, hname⟩ := entry_of_given hd hn
  cases hm _ he with
  | ofClass hs' => cases hs.symm.trans hs'
  | @ofEnum e _ _ _ _ => exact ⟨e, he, hname⟩

/-- Each model of a walk has the name of its node and is described by the names of all. -/
theorem matched_of_walk (h : r.walk = .ok done) :
    List.Forall₂ (fun id m => givenName? {} done id = some m.name ∧
      Describes r.graph r.settings (givenName? {} done) id m)
      (done.map Prod.fst) (done.map Prod.snd) := by
  rw [List.forall₂_map_left_iff, List.forall₂_map_right_iff, List.forall₂_same]
  intro entry he
  exact ⟨givenName?_of_entry (distinct_of_walk h) he, described_of_walk h entry he⟩

end Run

/-! ## models of one kind -/

theorem Model.class?_eq_some_iff {m : Model} {c : ClassModel} :
    m.class? = some c ↔ m = .ofClass c := by
  cases m <;> simp [class?]

theorem Model.enum?_eq_some_iff {m : Model} {e : EnumModel} :
    m.enum? = some e ↔ m = .ofEnum e := by
  cases m <;> simp [enum?]

theorem mem_filterMap_finished {kind? : Model → Option α} {ofKind : α → Model}
    (hk : ∀ {m a}, kind? m = some a ↔ m = ofKind a) {done : Finished} {a : α} :
    a ∈ (done.map Prod.snd).filterMap kind? ↔ ∃ id, (id, ofKind a) ∈ done := by
  rw [List.mem_filterMap]
  constructor
  · rintro ⟨m, hm, ha⟩
    obtain ⟨⟨id, m'⟩, he, rfl⟩ := List.mem_map.mp hm
    obtain rfl := hk.mp ha
    exact ⟨id, he⟩
  · rintro ⟨id, he⟩
    exact ⟨_, List.mem_map_of_mem he, hk.mpr rfl⟩

theorem mem_classes {done : Finished} {c : ClassModel} :
    c ∈ ModelSet.classes (done.map Prod.snd) ↔ ∃ id, (id, .ofClass c) ∈ done :=
  mem_filterMap_finished Model.class?_eq_some_iff

theorem mem_enums {done : Finished} {e : EnumModel} :
    e ∈ ModelSet.enums (done.map Prod.snd) ↔ ∃ id, (id, .ofEnum e) ∈ done :=
  mem_filterMap_finished Model.enum?_eq_some_iff

theorem get?_of_mem {models : ModelSet} (hn : (models.map Model.name).Nodup) {m : Model}
    (hm : m ∈ models) : models.get? m.name = some m := by
  unfold ModelSet.get?
  induction models with
  | nil => cases hm
  | cons first rest ih =>
    obtain ⟨hf, hr⟩ := List.nodup_cons.mp hn
    rw [List.find?_cons]
    rcases List.mem_cons.mp hm with rfl | hm
    · simp
    · have hne : first.name ≠ m.name := fun e => hf (e ▸ List.mem_map_of_mem hm)
      simp only [hne, decide_false]
      exact ih hr hm

/-- The models of a run have distinct names, and every class or enumeration that the type of a
property names, at any depth of sequences, is a model of this kind. -/
theorem names_distinct_and_resolved {r : Run} {models : ModelSet} (h : r.models = .ok models) :
    (models.map Model.name).Nodup ∧
      ∀ c ∈ models.classes, ∀ p ∈ c.properties, ∀ name,
        (p.type.leaf = .classNamed name → ∃ target ∈ models.classes, target.name = name) ∧
          (p.type.leaf = .enumNamed name → ∃ target ∈ models.enums, target.name = name) := by
  obtain ⟨-, done, hw, rfl⟩ := Run.models_ok h
  have hd := Run.distinct_of_walk hw
  have hm := Run.described_of_walk hw
  constructor
  · exact hd.finished_names
  · intro c hc p hp name
    obtain ⟨id, he⟩ := mem_classes.mp hc
    obtain ⟨target, ht⟩ := (hm _ he).denotes_of_property hp
    constructor
    · intro hl
      obtain ⟨node, properties, hs, hn⟩ := ht.class_of_leaf hl
      obtain ⟨c', he', hname, -⟩ := Run.class_of_given hd hm hs hn
      exact ⟨c', mem_classes.mpr ⟨node, he'⟩, hname⟩
    · intro hl
      obtain ⟨node, values, hs, hn⟩ := ht.enum_of_leaf hl
      obtain ⟨e, he', hname⟩ := Run.enum_of_given hd hm hs hn
      exact ⟨e, mem_enums.mpr ⟨node, he'⟩, hname⟩

/-! ## an example -/

/-- A tree schema: nodes have a kind and children, which are nodes again. -/
def treeGraph : Graph := ⟨#[
  { reference := some (.fragment "#/definitions/Node"), pointer := ["properties", "root"] },
  { reference := some (.fragment "#/definitions/Kind"),
    pointer := ["definitions", "Node", "properties", "kind"] },
  { reference := some (.fragment "#/definitions/Node"),
    pointer := ["definitions", "Node", "properties", "children", "items"] },
  { type := some .array, items := some 2,
    pointer := ["definitions", "Node", "properties", "children"] },
  { type := some .object, properties := [("kind", 1), ("children", 3)], required := ["kind"],
    pointer := ["definitions", "Node"] },
  { values := some ["leaf", "branch"], pointer := ["definitions", "Kind"] },
  { type := some .object, properties := [("root", 0)],
    definitions := [("Node", 4), ("Kind", 5)] }]⟩

def treeRun (hints : Hints) : Run where
  graph := treeGraph
  hints
  settings := { namespaceName := "N", rootClassName := "Tree" }

def treeModels : ModelSet := [
  .ofEnum ⟨"N", "Kind", none, [⟨"Leaf", some "leaf"⟩, ⟨"Branch", some "branch"⟩]⟩,
  .ofClass ⟨"N", "Node", none, [⟨"Kind", "kind", .enumNamed "Kind", true, none⟩,
    ⟨"Children", "children", .sequence (.classNamed "Node"), false, none⟩], false⟩,
  .ofClass ⟨"N", "Tree", none, [⟨"Root", "root", .classNamed "Node", false, none⟩], false⟩]

theorem models_treeRun : (treeRun {}).models = .ok treeModels :=
  Run.models_of_within rfl rfl (by with_unfolding_all rfl)

/-- The tree schema: classes that refer to themselves and to an enumeration. -/
theorem names_of_treeRun : (treeRun {}).models = .ok treeModels ∧
    (treeModels.map Model.name).Nodup ∧
      ∀ c ∈ treeModels.classes, ∀ p ∈ c.properties, ∀ name,
        (p.type.leaf = .classNamed name → ∃ target ∈ treeModels.classes, target.name = name) ∧
          (p.type.leaf = .enumNamed name → ∃ target ∈ treeModels.enums, target.name = name) :=
  ⟨models_treeRun, names_distinct_and_resolved models_treeRun⟩

end SchemaModel
