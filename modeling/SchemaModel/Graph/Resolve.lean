import SchemaModel.Graph.Basic
import SchemaModel.Unseen

/-!
# References between the schemas of a document

A reference leads to the root or to a definition that is reached through definitions alone, and it
must be written as a fragment. A schema that is a reference stands for the schema at the end of the
chain of references that starts with it.

* `lt_size_of_reference`        only a node of the graph has a reference;
* `reference_of_follow`         a chain ends at a schema without a reference;
* `follow_self`                 and such a schema stands for itself;
* `reference_ne_none`           a schema that stands for another one has a reference.
-/

namespace SchemaModel.Graph

/-- the id of the node at a pointer -/
def find? (g : Graph) (p : Pointer) : Option NodeId := g.nodes.findIdx? (·.pointer = p)

/-- the id of the node that a reference addresses -/
def resolve (g : Graph) (r : Reference) : Except Error NodeId :=
  let unresolved (reason : Unresolved) := .error (.unresolvedReference r.text reason)
  match r with
  | .uri _ => unresolved .notLocal
  | .fragment s =>
    match Pointer.ofFragment? s with
    | none => unresolved .notPointer
    | some p =>
      if p.isAddressable then
        match g.find? p with
        | some id => .ok id
        | none => unresolved .noSuchDefinition
      else unresolved .notDefinition

/-- A fragment is looked up among the nodes in their order, here as a list. -/
theorem resolve_fragment {g : Graph} {s : String} {p : Pointer}
    (hp : Pointer.ofFragment? s = some p) (ha : p.isAddressable = true) :
    g.resolve (.fragment s) =
      match g.nodes.toList.findIdx? (·.pointer = p) with
      | some id => .ok id
      | none => .error (.unresolvedReference s .noSuchDefinition) := by
  have hfind : g.find? p = g.nodes.toList.findIdx? (·.pointer = p) := by
    rw [find?, ← List.findIdx?_toArray]
  rw [resolve, hp]
  dsimp only
  rw [if_pos ha, hfind]
  rfl

theorem lt_size_of_reference {g : Graph} {id : NodeId} {r : Reference}
    (h : (g.node id).reference = some r) : id < g.size := by
  unfold node at h
  cases hn : g.nodes[id]? with
  | none =>
    rw [hn] at h
    cases h
  | some n => exact (Array.getElem?_eq_some_iff.mp hn).1

/-- The end of the chain of references that starts at a node; `seen` are the nodes that were passed
on the way. -/
def followFrom (g : Graph) (seen : List NodeId) (id : NodeId) : Except Error NodeId :=
  match _h : (g.node id).reference with
  | none => .ok id
  | some r =>
    if _hs : id ∈ seen then .error (.unresolvedReference r.text .loop)
    else
      match g.resolve r with
      | .ok target => g.followFrom (id :: seen) target
      | .error e => .error e
termination_by unseen (List.range g.size) seen
decreasing_by exact unseen_cons_lt (List.mem_range.mpr (lt_size_of_reference _h)) _hs

/-- the node that a node stands for -/
def follow (g : Graph) (id : NodeId) : Except Error NodeId := g.followFrom [] id

theorem reference_of_followFrom {g : Graph} {seen : List NodeId} {id target : NodeId}
    (h : g.followFrom seen id = .ok target) : (g.node target).reference = none := by
  fun_induction followFrom g seen id with
  | case1 _ id hr =>
    cases h
    exact hr
  | case2 => cases h
  | case3 _ _ _ _ _ _ _ ih => exact ih h
  | case4 => cases h

theorem reference_of_follow {g : Graph} {id target : NodeId} (h : g.follow id = .ok target) :
    (g.node target).reference = none :=
  reference_of_followFrom h

/-- A schema without a reference stands for itself. -/
theorem follow_self {g : Graph} {id : NodeId} (h : (g.node id).reference = none) :
    g.follow id = .ok id := by
  rw [follow, followFrom]
  split
  · rfl
  · next r hr => rw [h] at hr; cases hr

theorem reference_ne_none {g : Graph} {id target : NodeId} (h : g.follow id = .ok target)
    (hn : target ≠ id) : (g.node id).reference ≠ none := by
  intro hr
  rw [follow_self hr] at h
  exact hn (Except.ok.inj h).symm

end SchemaModel.Graph
