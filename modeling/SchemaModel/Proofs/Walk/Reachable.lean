import Mathlib.Data.List.Nodup
import Mathlib.Logic.Relation
import SchemaModel.Proofs.Walk.Links

/-!
# The nodes that have a model

A walk starts at the root and at the definitions of the root that are no references. It steps from
an object to what its properties stand for and from an array to what its items stand for. The
objects and enumerations on its way are those that get a model, each one, however often they are
met.

* `TypeOf.reaches`                 nothing is finished but what steps lead to;
* `denotes_of_reachable`           what steps lead to has a type, and so its name;
* `isSome_givenName?_iff`          the reachable objects and enumerations have the names;
* `models_match_reachable_nodes`   the models correspond to these nodes one to one;
* `types_denote`                   one assignment of names explains all classes.
-/

namespace SchemaModel

/-- an object or an enumeration, and no reference -/
def Node.HasModel (n : Node) : Prop :=
  n.reference = none ∧
    ((∃ properties, n.shape = .object properties) ∨ ∃ values, n.shape = .enumeration values)

namespace Graph

/-- from an object to what one of its properties stands for, and from an array to what its items
stand for -/
inductive Step (g : Graph) : NodeId → NodeId → Prop
  | property {a b properties declared} (hr : (g.node a).reference = none)
      (hs : (g.node a).shape = .object properties) (hp : declared ∈ properties)
      (hf : g.follow declared.2 = .ok b) : Step g a b
  | items {a b items} (hr : (g.node a).reference = none)
      (hs : (g.node a).shape = .array (some items)) (hf : g.follow items = .ok b) : Step g a b

/-- the root, and the definitions of the root that are no references -/
inductive Start (g : Graph) : NodeId → Prop
  | root : Start g g.root
  | definition {d} (hd : d ∈ (g.node g.root).definitions)
      (hr : (g.node d.2).reference = none) : Start g d.2

def Reachable (g : Graph) (id : NodeId) : Prop :=
  ∃ start, g.Start start ∧ Relation.ReflTransGen g.Step start id

/-- A step leads to a node without a reference. -/
theorem Step.reference_eq_none {g : Graph} {a b : NodeId} (h : g.Step a b) :
    (g.node b).reference = none := by
  cases h with
  | property _ _ _ hf | items _ _ hf => exact reference_of_follow hf

theorem Reachable.reference_eq_none {g : Graph} {id : NodeId}
    (hroot : (g.node g.root).reference = none) (h : g.Reachable id) :
    (g.node id).reference = none := by
  obtain ⟨start, hs, hpath⟩ := h
  cases hpath with
  | refl =>
    cases hs with
    | root => exact hroot
    | definition _ hr => exact hr
  | tail _ hstep => exact hstep.reference_eq_none

end Graph

namespace Run

/-! ## nothing but what is reachable -/

mutual

/-- What a walk finishes lies behind the node where it starts. -/
theorem TypeOf.reaches {r : Run} {trail : Trail} {site : Site} {id : NodeId}
    {done done' : Finished} {t : TypeRef} :
    r.TypeOf trail site id done t done' → (r.graph.node id).reference = none →
      ∀ entry ∈ done', entry ∈ done ∨ Relation.ReflTransGen r.graph.Step id entry.1
  | .oldEnum _ _, _ | .oldClass _ _, _ | .plain _, _ => fun _ he => .inl he
  | .newEnum _ _ _ _, _ => by
    intro entry he
    rcases List.mem_append.mp he with hold | hnew
    · exact .inl hold
    · rw [List.mem_singleton.mp hnew]
      exact .inr .refl
  | .newClass hs _ _ _ hp, hr => by
    intro entry he
    rcases List.mem_append.mp he with hbefore | hnew
    · rcases hp.reaches entry hbefore with hold | ⟨declared, hd, target, hf, hpath⟩
      · exact .inl hold
      · rw [map_declared_namedProperties] at hd
        exact .inr (.head (.property hr hs hd hf) hpath)
    · rw [List.mem_singleton.mp hnew]
      exact .inr .refl
  | .items hs _ hf ht, hr => by
    intro entry he
    rcases ht.reaches (Graph.reference_of_follow hf) entry he with hold | hpath
    · exact .inl hold
    · exact .inr (.head (.items hr hs hf) hpath)

theorem PropertiesOf.reaches {r : Run} {trail : Trail} {owner : NodeId} {name : String}
    {properties : List NamedProperty} {done done' : Finished} {types : List Property} :
    r.PropertiesOf trail owner name properties done types done' →
      ∀ entry ∈ done', entry ∈ done ∨ ∃ declared ∈ properties.map NamedProperty.declared,
        ∃ target, r.graph.follow declared.2 = .ok target ∧
          Relation.ReflTransGen r.graph.Step target entry.1
  | .nil => fun _ he => .inl he
  | .cons hf ht hp => by
    intro entry he
    rcases hp.reaches entry he with hbefore | ⟨declared, hd, hrest⟩
    · rcases ht.reaches (Graph.reference_of_follow hf) entry hbefore with hold | hpath
      · exact .inl hold
      · exact .inr ⟨_, List.mem_cons_self, _, hf, hpath⟩
    · exact .inr ⟨declared, List.mem_cons_of_mem _ hd, hrest⟩

end

theorem BeginsAt.start {r : Run} {name : String} {id : NodeId} (h : r.BeginsAt name id) :
    r.graph.Start id := by
  cases h with
  | root => exact .root
  | definition hd hf => exact .definition hd (Graph.reference_of_follow hf)

theorem reachable_of_walk {r : Run} {done : Finished} (h : r.walk = .ok done)
    (hroot : (r.graph.node r.graph.root).reference = none) :
    ∀ entry ∈ done, r.graph.Reachable entry.1 := by
  refine invariant_of_walk (I := fun done => ∀ entry ∈ done, r.graph.Reachable entry.1)
    nofun (fun hb ht hall entry he => ?_) h
  rcases ht.reaches (hb.reference_eq_none hroot) entry he with hold | hpath
  · exact hall entry hold
  · exact ⟨_, hb.start, hpath⟩

/-! ## everything that is reachable -/

/-- A node where the walk stood keeps its type until the end. -/
theorem DefinitionsOf.denotes {r : Run} {definitions : List (String × NodeId)}
    {done done' : Finished} (h : r.DefinitionsOf definitions done done')
    (hd : Distinct (namesGiven {} done)) :
    ∀ d ∈ definitions, (r.graph.node d.2).reference = none →
      ∃ t, Denotes r.graph (givenName? {} done') d.2 t := by
  induction h with
  | nil => exact nofun
  | reference hf hn _ ih =>
    intro d hm hr
    rcases List.mem_cons.mp hm with rfl | hm
    · exact absurd hr (Graph.reference_ne_none hf hn)
    · exact ih hd d hm hr
  | own _ ht hrest ih =>
    intro d hm hr
    rcases List.mem_cons.mp hm with rfl | hm
    · exact ⟨_, (ht.denotes hd).mono (Extends.of_done hrest.keeps_done)⟩
    · exact ih (ht.distinct hd) d hm hr

theorem denotes_of_start {r : Run} {done : Finished} (h : r.walk = .ok done) {id : NodeId}
    (hs : r.graph.Start id) : ∃ t, Denotes r.graph (givenName? {} done) id t := by
  obtain ⟨t, done₀, ht, hd⟩ := walk_ok h
  cases hs with
  | root => exact ⟨t, (ht.denotes distinct_start).mono (Extends.of_done hd.keeps_done)⟩
  | definition hm hr => exact hd.denotes (ht.distinct distinct_start) _ hm hr

/-- The nodes that have a type are closed under steps: a named object has a class by now, and the
class has a type for each of its properties. -/
theorem denotes_of_step {r : Run} {done : Finished} (hd : Distinct (namesGiven {} done))
    (hm : Described r {} done) {a b : NodeId} {t : TypeRef} (hstep : r.graph.Step a b)
    (ha : Denotes r.graph (givenName? {} done) a t) :
    ∃ t', Denotes r.graph (givenName? {} done) b t' := by
  cases hstep with
  | property _ hs hp hf =>
    obtain ⟨name, hn, -⟩ := ha.of_object hs
    -- the class of `a` has one property for each declared one, whose type is that of `b`
    obtain ⟨c, -, -, hall⟩ := class_of_given hd hm hs hn
    obtain ⟨p, -, hdecl⟩ := mem_of_forall₂ hall.flip _ hp
    obtain ⟨target, hf', ht⟩ := hdecl.type
    cases hf.symm.trans hf'
    exact ⟨_, ht⟩
  | items _ hs hf =>
    obtain ⟨target, element, hf', ht, -⟩ := ha.of_array hs
    cases hf.symm.trans hf'
    exact ⟨_, ht⟩

theorem denotes_of_reachable {r : Run} {done : Finished} (h : r.walk = .ok done) {id : NodeId}
    (hr : r.graph.Reachable id) : ∃ t, Denotes r.graph (givenName? {} done) id t := by
  obtain ⟨start, hs, hpath⟩ := hr
  induction hpath with
  | refl => exact denotes_of_start h hs
  | tail _ hstep ih =>
    obtain ⟨t, ht⟩ := ih
    exact denotes_of_step (distinct_of_walk h) (described_of_walk h) hstep ht

/-- A node has a name at the end of a walk when it is one of those that have a model. -/
theorem isSome_givenName?_iff {r : Run} {done : Finished} (h : r.walk = .ok done)
    (hroot : (r.graph.node r.graph.root).reference = none) (id : NodeId) :
    (givenName? {} done id).isSome ↔ r.graph.Reachable id ∧ (r.graph.node id).HasModel := by
  have hd := distinct_of_walk h
  constructor
  · intro hn
    obtain ⟨name, hn⟩ := Option.isSome_iff_exists.mp hn
    obtain ⟨m, he, -⟩ := entry_of_given hd hn
    have hr := reachable_of_walk h hroot _ he
    refine ⟨hr, hr.reference_eq_none hroot, ?_⟩
    cases described_of_walk h _ he with
    | ofClass hs => exact .inl ⟨_, hs⟩
    | ofEnum hs => exact .inr ⟨_, hs⟩
  · rintro ⟨hr, -, ⟨properties, hs⟩ | ⟨values, hs⟩⟩
    all_goals obtain ⟨t, ht⟩ := denotes_of_reachable h hr
    · obtain ⟨name, hn, -⟩ := ht.of_object hs
      exact Option.isSome_of_eq_some hn
    · obtain ⟨name, hn, -⟩ := ht.of_enumeration hs
      exact Option.isSome_of_eq_some hn

/-- The root has a model. -/
theorem models_ne_nil {r : Run} {models : ModelSet} (h : r.models = .ok models) : models ≠ [] := by
  obtain ⟨hroot, done, hw, rfl⟩ := models_ok h
  have hr := reference_of_rootIsObject hroot
  have hmodel : (r.graph.node r.graph.root).HasModel := ⟨hr, .inl (shape_of_rootIsObject hroot)⟩
  obtain ⟨name, hn⟩ := Option.isSome_iff_exists.mp
    ((isSome_givenName?_iff hw hr r.graph.root).mpr ⟨⟨_, .root, .refl⟩, hmodel⟩)
  obtain ⟨m, he, -⟩ := entry_of_given (distinct_of_walk hw) hn
  exact List.ne_nil_of_mem (List.mem_map_of_mem he)

end Run

/-! ## one model for each node -/

/-- The models of a run correspond one to one to the objects and enumerations that steps lead to
from the root and from the definitions of the root that are no references: `ids` lists these nodes,
each once, and every model is that of its node, of the same kind. -/
theorem models_match_reachable_nodes {r : Run} {models : ModelSet} (h : r.models = .ok models) :
    ∃ (ids : List NodeId) (ν : NodeId → Option String), ids.Nodup ∧
      (∀ id, id ∈ ids ↔ r.graph.Reachable id ∧ (r.graph.node id).HasModel) ∧
      List.Forall₂ (fun id m => ν id = some m.name ∧ Describes r.graph r.settings ν id m)
        ids models := by
  obtain ⟨hroot, done, hw, rfl⟩ := Run.models_ok h
  refine ⟨done.map Prod.fst, givenName? {} done, (Run.distinct_of_walk hw).finished_nodes, ?_,
    Run.matched_of_walk hw⟩
  intro id
  rw [← Run.isSome_givenName?_iff hw (Run.reference_of_rootIsObject hroot),
    isSome_givenName?_iff_mem]
  simp

/-- The tree schema: the enumeration and both classes, each once. -/
theorem nodes_of_treeRun : (treeRun {}).models = .ok treeModels ∧
    ∃ (ids : List NodeId) (ν : NodeId → Option String), ids.Nodup ∧
      (∀ id, id ∈ ids ↔ treeGraph.Reachable id ∧ (treeGraph.node id).HasModel) ∧
      List.Forall₂ (fun id m => ν id = some m.name ∧
        Describes treeGraph (treeRun {}).settings ν id m) ids treeModels :=
  ⟨models_treeRun, models_match_reachable_nodes models_treeRun⟩

/-! ## one type for each node -/

/-- The assignment `ν` of names to nodes explains the models of a run: it names the reachable
objects and enumerations and no other nodes, each by a name of its own, and from it alone every
reachable node has its type, and every class its properties. -/
structure Explains (r : Run) (models : ModelSet) (ν : NodeId → Option String) : Prop where
  named : ∀ id, (ν id).isSome ↔ r.graph.Reachable id ∧ (r.graph.node id).HasModel
  injective : ∀ id id' name, ν id = some name → ν id' = some name → id = id'
  typed : ∀ id, r.graph.Reachable id → ∃! t, Denotes r.graph ν id t
  /-- one property for each declared one, in their order -/
  classes : ∀ id properties, r.graph.Reachable id →
    (r.graph.node id).shape = .object properties →
    ∃ name c, ν id = some name ∧ models.get? name = some (.ofClass c) ∧
      List.Forall₂ (DeclaredAs r.graph ν id) properties c.properties
  enums : ∀ id values, r.graph.Reachable id →
    (r.graph.node id).shape = .enumeration values →
    ∃ name e, ν id = some name ∧ models.get? name = some (.ofEnum e)

/-- One assignment of names explains all models of a run, whatever the order in which their nodes
were reached. -/
theorem types_denote {r : Run} {models : ModelSet} (h : r.models = .ok models) :
    ∃ ν, Explains r models ν := by
  obtain ⟨hroot, done, hw, rfl⟩ := Run.models_ok h
  have hd := Run.distinct_of_walk hw
  have hm := Run.described_of_walk hw
  have hnames := hd.finished_names
  refine ⟨givenName? {} done, ?named, ?injective, ?typed, ?classes, ?enums⟩
  case named => exact Run.isSome_givenName?_iff hw (Run.reference_of_rootIsObject hroot)
  case injective =>
    intro id id' name hn hn'
    rw [givenName?_eq_some_iff hd] at hn hn'
    exact congrArg Prod.fst (List.inj_on_of_nodup_map hd.names hn hn' rfl)
  case typed =>
    intro id hr
    obtain ⟨t, ht⟩ := Run.denotes_of_reachable hw hr
    exact ⟨t, ht, fun t' ht' => ht'.unique ht⟩
  case classes =>
    intro id properties hr hs
    obtain ⟨t, ht⟩ := Run.denotes_of_reachable hw hr
    obtain ⟨name, hn, -⟩ := ht.of_object hs
    obtain ⟨c, he, rfl, hp⟩ := Run.class_of_given hd hm hs hn
    exact ⟨c.name, c, hn, get?_of_mem hnames (List.mem_map_of_mem he), hp⟩
  case enums =>
    intro id values hr hs
    obtain ⟨t, ht⟩ := Run.denotes_of_reachable hw hr
    obtain ⟨name, hn, -⟩ := ht.of_enumeration hs
    obtain ⟨e, he, rfl⟩ := Run.enum_of_given hd hm hs hn
    exact ⟨e.name, e, hn, get?_of_mem hnames (List.mem_map_of_mem he)⟩

/-- The tree schema: the class of a node has a sequence of itself among its properties. -/
theorem types_of_treeRun : (treeRun {}).models = .ok treeModels ∧
    ∃ ν, Explains (treeRun {}) treeModels ν :=
  ⟨models_treeRun, types_denote models_treeRun⟩

end SchemaModel
