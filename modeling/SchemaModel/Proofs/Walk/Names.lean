import SchemaModel.Proofs.Lists
import SchemaModel.Proofs.Walk.Derivation

/-!
# The names given on a walk

A node has a name from the moment its class is entered or its enumeration is finished. The names
given are those of the open classes and those of the finished models; `givenName?` and `owner?` look
into this list. A class that is left moves from the first part to the second, and nothing is taken
away, so a name once given stays.

* `keeps_done`        what is finished stays finished, in its place;
* `TypeOf.distinct`   a walk gives no node two names and no name to two nodes;
* `Extends.leave`     leaving a class keeps the names.
-/

namespace SchemaModel

/-- the nodes that have a name: of the classes entered, and of the models finished -/
def namesGiven (trail : Trail) (done : Finished) : List (NodeId × String) :=
  trail.classes ++ done.map fun entry => (entry.1, entry.2.name)

theorem lookup_map_name (done : Finished) (id : NodeId) :
    (done.map fun entry => (entry.1, entry.2.name)).lookup id =
      (done.lookup id).map Model.name := by
  induction done with
  | nil => rfl
  | cons entry rest ih =>
    rw [List.map_cons, List.lookup_cons, List.lookup_cons]
    split
    · rfl
    · exact ih

theorem givenName?_eq_lookup (trail : Trail) (done : Finished) (id : NodeId) :
    givenName? trail done id = (namesGiven trail done).lookup id := by
  rw [namesGiven, List.lookup_append, lookup_map_name]
  rfl

theorem givenName?_eq_none_iff {trail : Trail} {done : Finished} {id : NodeId} :
    givenName? trail done id = none ↔ id ∉ (namesGiven trail done).map Prod.fst := by
  rw [givenName?_eq_lookup, List.lookup_eq_none_iff]
  constructor
  · rintro h hm
    obtain ⟨entry, he, rfl⟩ := List.mem_map.mp hm
    simpa using h entry he
  · intro h entry he
    exact bne_iff_ne.mpr fun e => h (List.mem_map.mpr ⟨entry, he, e.symm⟩)

/-- A node has a name when its class is open or its model is finished. -/
theorem isSome_givenName?_iff_mem {trail : Trail} {done : Finished} {id : NodeId} :
    (givenName? trail done id).isSome ↔
      id ∈ trail.classes.map Prod.fst ∨ id ∈ done.map Prod.fst := by
  rw [Option.isSome_iff_ne_none, Ne, givenName?_eq_none_iff, Decidable.not_not, namesGiven,
    List.map_append, List.mem_append, List.map_map]
  rfl

theorem owner?_eq_none_iff {trail : Trail} {done : Finished} {name : String} :
    owner? trail done name = none ↔ name ∉ (namesGiven trail done).map Prod.snd := by
  simp only [owner?, namesGiven, Option.or_eq_none_iff, Option.map_eq_none_iff,
    List.find?_eq_none, List.map_append, List.map_map, List.mem_append, List.mem_map, not_or,
    decide_eq_true_eq, Function.comp_apply, not_exists, not_and]

/-! ## what a walk keeps -/

/-- every name under `ν` is the name of the same node under `ν'` -/
def Extends (ν ν' : NodeId → Option String) : Prop :=
  ∀ id name, ν id = some name → ν' id = some name

theorem Extends.trans {ν₁ ν₂ ν₃ : NodeId → Option String} (h₁ : Extends ν₁ ν₂)
    (h₂ : Extends ν₂ ν₃) : Extends ν₁ ν₃ := fun id name h => h₂ id name (h₁ id name h)

/-- More finished models stand behind the names given before. -/
theorem namesGiven_grows {trail : Trail} {done done' : Finished} (h : done <+: done') :
    namesGiven trail done <+: namesGiven trail done' :=
  (List.prefix_append_right_inj _).mpr (h.map _)

/-- More finished models give no node another name. -/
theorem Extends.of_done {trail : Trail} {done done' : Finished} (h : done <+: done') :
    Extends (givenName? trail done) (givenName? trail done') := by
  intro id name hn
  rw [givenName?_eq_lookup] at hn ⊢
  exact (namesGiven_grows h).lookup_eq_some hn

namespace Run

mutual

theorem TypeOf.keeps_done {r : Run} {trail : Trail} {site : Site} {id : NodeId}
    {done done' : Finished} {t : TypeRef} :
    r.TypeOf trail site id done t done' → done <+: done'
  | .oldEnum _ _ | .oldClass _ _ | .plain _ => List.prefix_rfl
  | .newEnum _ _ _ _ => List.prefix_append _ _
  | .newClass _ _ _ _ hp => hp.keeps_done.trans (List.prefix_append _ _)
  | .items _ _ _ ht => ht.keeps_done

theorem PropertiesOf.keeps_done {r : Run} {trail : Trail} {owner : NodeId} {name : String}
    {properties : List NamedProperty} {done done' : Finished} {types : List Property} :
    r.PropertiesOf trail owner name properties done types done' → done <+: done'
  | .nil => List.prefix_rfl
  | .cons _ ht hp => ht.keeps_done.trans hp.keeps_done

end

theorem DefinitionsOf.keeps_done {r : Run} {definitions : List (String × NodeId)}
    {done done' : Finished} (h : r.DefinitionsOf definitions done done') : done <+: done' :=
  h.preserves (fun _ _ _ _ _ _ ht hp => hp.trans ht.keeps_done) List.prefix_rfl

end Run

/-! ## no name twice -/

/-- No node has two names, and no name has two nodes. -/
structure Distinct (given : List (NodeId × String)) : Prop where
  nodes : (given.map Prod.fst).Nodup
  names : (given.map Prod.snd).Nodup

section
variable {trail : Trail} {done : Finished} {id : NodeId} {name : String} {m : Model}

theorem distinct_start : Distinct (namesGiven {} []) := ⟨List.nodup_nil, List.nodup_nil⟩

theorem givenName?_eq_some_iff (h : Distinct (namesGiven trail done)) :
    givenName? trail done id = some name ↔ (id, name) ∈ namesGiven trail done := by
  rw [givenName?_eq_lookup]
  exact lookup_eq_some_iff_mem h.nodes

/-- A node without a name takes one that no node has. -/
theorem Distinct.enter (arrays : List NodeId) (h : Distinct (namesGiven trail done))
    (hg : givenName? trail done id = none) (ho : owner? trail done name = none) :
    Distinct (namesGiven ⟨(id, name) :: trail.classes, arrays⟩ done) :=
  ⟨List.nodup_cons.mpr ⟨givenName?_eq_none_iff.mp hg, h.nodes⟩,
    List.nodup_cons.mpr ⟨owner?_eq_none_iff.mp ho, h.names⟩⟩

theorem Extends.enter (arrays : List NodeId) (h : Distinct (namesGiven trail done))
    (hg : givenName? trail done id = none) (ho : owner? trail done name = none) :
    Extends (givenName? trail done) (givenName? ⟨(id, name) :: trail.classes, arrays⟩ done) := by
  intro i n hn
  rw [givenName?_eq_some_iff h] at hn
  rw [givenName?_eq_some_iff (h.enter arrays hg ho)]
  exact List.mem_cons_of_mem _ hn

/-- The model of a class stands behind the others with the name that the class had. -/
theorem namesGiven_leave (trail : Trail) (done : Finished) (id : NodeId) (arrays : List NodeId)
    (hm : m.name = name) : (namesGiven trail (done ++ [(id, m)])).Perm
      (namesGiven ⟨(id, name) :: trail.classes, arrays⟩ done) := by
  have hl : namesGiven trail (done ++ [(id, m)]) = namesGiven trail done ++ [(id, name)] := by
    simp [namesGiven, hm]
  rw [hl]
  exact List.perm_append_singleton _ _

theorem Distinct.leave {arrays : List NodeId}
    (h : Distinct (namesGiven ⟨(id, name) :: trail.classes, arrays⟩ done))
    (hm : m.name = name) : Distinct (namesGiven trail (done ++ [(id, m)])) :=
  ⟨((namesGiven_leave trail done id arrays hm).map Prod.fst).nodup_iff.mpr h.nodes,
    ((namesGiven_leave trail done id arrays hm).map Prod.snd).nodup_iff.mpr h.names⟩

theorem Extends.leave {arrays : List NodeId}
    (h : Distinct (namesGiven ⟨(id, name) :: trail.classes, arrays⟩ done))
    (hm : m.name = name) :
    Extends (givenName? ⟨(id, name) :: trail.classes, arrays⟩ done)
      (givenName? trail (done ++ [(id, m)])) := by
  intro i n hn
  rw [givenName?_eq_some_iff h] at hn
  rw [givenName?_eq_some_iff (h.leave hm)]
  exact (namesGiven_leave trail done id arrays hm).mem_iff.mpr hn

/-- A node whose model is finished keeps its name. -/
theorem givenName?_finish {arrays : List NodeId}
    (h : Distinct (namesGiven ⟨(id, name) :: trail.classes, arrays⟩ done))
    (hm : m.name = name) : givenName? trail (done ++ [(id, m)]) id = some name :=
  Extends.leave h hm id name (by simp [givenName?])

end

/-! ## at the end of a walk no class is open -/

theorem Distinct.finished_nodes {done : Finished} (h : Distinct (namesGiven {} done)) :
    (done.map Prod.fst).Nodup := by
  have hids : (namesGiven {} done).map Prod.fst = done.map Prod.fst := by
    show (done.map _).map Prod.fst = _
    rw [List.map_map]
    rfl
  rw [← hids]
  exact h.nodes

theorem Distinct.finished_names {done : Finished} (h : Distinct (namesGiven {} done)) :
    ((done.map Prod.snd).map Model.name).Nodup := by
  have hnames : (namesGiven {} done).map Prod.snd = (done.map Prod.snd).map Model.name := by
    show (done.map _).map Prod.snd = _
    rw [List.map_map, List.map_map]
    rfl
  rw [← hnames]
  exact h.names

theorem givenName?_of_entry {done : Finished} (h : Distinct (namesGiven {} done))
    {entry : NodeId × Model} (he : entry ∈ done) :
    givenName? {} done entry.1 = some entry.2.name := by
  rw [givenName?_eq_some_iff h]
  exact List.mem_map.mpr ⟨entry, he, rfl⟩

namespace Run

mutual

theorem TypeOf.distinct {r : Run} {trail : Trail} {site : Site} {id : NodeId}
    {done done' : Finished} {t : TypeRef} :
    r.TypeOf trail site id done t done' → Distinct (namesGiven trail done) →
      Distinct (namesGiven trail done')
  | .oldEnum _ _, hd | .oldClass _ _, hd | .plain _, hd => hd
  | .newEnum _ hg _ ho, hd => (hd.enter [] hg ho).leave rfl
  | .newClass _ hg _ ho hp, hd => (hp.distinct (hd.enter [] hg ho)).leave rfl
  | .items _ _ _ ht, hd => ht.distinct hd

theorem PropertiesOf.distinct {r : Run} {trail : Trail} {owner : NodeId} {name : String}
    {properties : List NamedProperty} {done done' : Finished} {types : List Property} :
    r.PropertiesOf trail owner name properties done types done' →
      Distinct (namesGiven trail done) → Distinct (namesGiven trail done')
  | .nil, hd => hd
  | .cons _ ht hp, hd => hp.distinct (ht.distinct hd)

end

/-- At the end of a walk no two models have one node or one name. -/
theorem distinct_of_walk {r : Run} {done : Finished} (h : r.walk = .ok done) :
    Distinct (namesGiven {} done) :=
  invariant_of_walk distinct_start (fun _ ht hd => ht.distinct hd) h

end Run

end SchemaModel
