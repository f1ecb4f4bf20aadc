import SchemaModel.Proofs.Graph.Numbering
import SchemaModel.Proofs.Walk.Depth

/-!
# A walk reads nodes of its graph alone

A graph answers for an id outside of it with a schema that says nothing. `modelsGuarded` finds
models as `models` does, but gives up at such an id, wherever a node is read: while references are
followed, for the node where the walk stands, for a property, and for the two nodes of a name that
is taken. In the graph of a document it never gives up, because the walk stands at nodes of the
graph, holds names of such nodes alone, and goes on with ids that are stored in them or that
references lead to.

* `keeps_inside`        a walk gives names to nodes of the graph alone;
* `typeGuarded_eq`      so it reads no other nodes;
* `runs_stay_inside`    the numbers of a document's nodes, and that no run leaves them.
-/

namespace SchemaModel

open Limited

/-! ## walks that give up outside of the graph -/

namespace Graph

/-- the node of an id, if it is one of the graph -/
def access (g : Graph) (id : NodeId) : Limited Node :=
  match g.nodes[id]? with
  | some n => return n
  | none => giveUp

/-- The end of a chain of references, all of whose nodes are read. -/
def followGuarded (g : Graph) (seen : List NodeId) (id : NodeId) : Limited NodeId :=
  match _hn : g.nodes[id]? with
  | none => giveUp
  | some n =>
    match n.reference with
    | none => return id
    | some r =>
      if _hs : id ∈ seen then lift (.error (.unresolvedReference r.text .loop))
      else
        match g.resolve r with
        | .ok target => g.followGuarded (id :: seen) target
        | .error e => lift (.error e)
termination_by unseen (List.range g.size) seen
decreasing_by
  exact unseen_cons_lt (List.mem_range.mpr (Array.getElem?_eq_some_iff.mp _hn).1) _hs

end Graph

namespace Run

/-- A name that is taken is reported with the pointers of both nodes. -/
def claimGuarded (r : Run) (trail : Trail) (done : Finished) (name : String) (id : NodeId) :
    Limited Unit :=
  match owner? trail done name with
  | none => return ()
  | some owner => do
    let first ← r.graph.access owner
    let second ← r.graph.access id
    lift (.error (.typeNameConflict name first.pointer.fragment second.pointer.fragment))

/-- The type of an enumeration, whose node has been read. -/
def enumGuarded (r : Run) (trail : Trail) (site : Site) (id : NodeId) (values : List String)
    (done : Finished) : Limited (TypeRef × Finished) :=
  match givenName? trail done id with
  | some name => return (.enumNamed name, done)
  | none => do
    let e ← lift ((r.enumSite site id values).synthesize r.hints)
    r.claimGuarded trail done e.typeName id
    let model := .ofEnum ⟨r.settings.namespaceName, e.typeName, e.description, e.members⟩
    return (.enumNamed e.typeName, done ++ [(id, model)])

/-- The properties of a class, with `type` for the types of their nodes. -/
def propertiesGuarded (r : Run) (type : Site → NodeId → Finished → Limited (TypeRef × Finished))
    (owner : NodeId) (className : String) :
    List NamedProperty → Finished → Limited (List Property × Finished)
  | [], done => return ([], done)
  | p :: rest, done => do
    let target ← r.graph.followGuarded [] p.child
    let (t, done) ← type (.ofProperty className p.jsonName) target done
    -- a property says what its own schema and the class say of it
    let _ ← r.graph.access owner
    let _ ← r.graph.access p.child
    let (others, done) ← r.propertiesGuarded type owner className rest done
    return (r.property owner p t :: others, done)

def typeGuarded (r : Run) (trail : Trail) (site : Site) (id : NodeId) (done : Finished) :
    Limited (TypeRef × Finished) :=
  match _hn : r.graph.nodes[id]? with
  | none => giveUp
  | some n =>
    match n.shape with
    | .enumeration values => r.enumGuarded trail site id values done
    | .object properties =>
      match _hg : givenName? trail done id with
      | some name => return (.classNamed name, done)
      | none => do
        let name := className r.graph r.hints site id
        r.claimGuarded trail done name id
        let (types, done) ← r.propertiesGuarded
          (fun site target done => r.typeGuarded ⟨(id, name) :: trail.classes, []⟩ site target done)
          id name (namedProperties r.hints name properties) done
        return (.classNamed name, done ++ [(id, .ofClass (r.classModel name id types))])
    | .array items =>
      if _ha : id ∈ trail.arrays then
        lift (.error (.invalidSchema n.pointer.text .arrayOfItself))
      else
        match items with
        | none => return (.sequence .any, done)
        | some items => do
          let target ← r.graph.followGuarded [] items
          let (element, done) ←
            r.typeGuarded ⟨trail.classes, id :: trail.arrays⟩ site.items target done
          return (.sequence element, done)
    | .string format => return (if format = some "date-time" then .dateTime else .string, done)
    | .integer => return (.integer, done)
    | .number => return (.number, done)
    | .boolean => return (.boolean, done)
    | .null | .unconstrained => return (.any, done)
termination_by (unseen (List.range r.graph.size) (trail.classes.map Prod.fst),
  unseen (List.range r.graph.size) trail.arrays)
decreasing_by
  · exact Prod.Lex.left _ _ (unseen_cons_lt
      (List.mem_range.mpr (Array.getElem?_eq_some_iff.mp _hn).1) (not_mem_of_givenName? _hg))
  · exact Prod.Lex.right _ (unseen_cons_lt
      (List.mem_range.mpr (Array.getElem?_eq_some_iff.mp _hn).1) _ha)

def definitionGuarded (r : Run) (done : Finished) (definition : String × NodeId) :
    Limited Finished := do
  let target ← r.graph.followGuarded [] definition.2
  if target ≠ definition.2 then return done
  let (_, done) ← r.typeGuarded {} { inlineName := Naming.typeName definition.1 } target done
  return done

def walkGuarded (r : Run) : Limited Finished := do
  let (_, done) ← r.typeGuarded {} r.rootSite r.graph.root []
  let root ← r.graph.access r.graph.root
  root.definitions.foldlM r.definitionGuarded done

/-- The models of a run, or nothing if a node outside of the graph is read anywhere. -/
def modelsGuarded (r : Run) : Limited ModelSet := do
  lift r.settings.check
  let _ ← r.graph.access r.graph.root
  if r.rootIsObject then
    return (← r.walkGuarded).map Prod.snd
  else lift (.error .rootNotObject)

end Run

/-! ## reading inside of the graph -/

namespace Graph

variable {g : Graph} {id : NodeId}

theorem access_eq (hid : id < g.size) : g.access id = lift (.ok (g.node id)) := by
  rw [access, getElem?_node hid]
  rfl

/-- A step along a chain of references, inside of the graph. -/
theorem followGuarded_step (seen : List NodeId) (hid : id < g.size) :
    g.followGuarded seen id =
      match (g.node id).reference with
      | none => return id
      | some r =>
        if id ∈ seen then lift (.error (.unresolvedReference r.text .loop))
        else
          match g.resolve r with
          | .ok target => g.followGuarded (id :: seen) target
          | .error e => lift (.error e) := by
  have hnode := getElem?_node hid
  rw [followGuarded]
  split
  · next hn => cases hn.symm.trans hnode
  · next n hn =>
    cases hn.symm.trans hnode
    rfl

/-- References lead to nodes of the graph, so a chain of them stays inside. -/
theorem followGuarded_eq (seen : List NodeId) (hid : id < g.size) :
    g.followGuarded seen id = lift (g.followFrom seen id) := by
  fun_induction followFrom g seen id with
  | case1 seen id hr =>
    rw [followGuarded_step seen hid, hr]
    rfl
  | case2 seen id r hr hs =>
    rw [followGuarded_step seen hid, hr]
    exact if_pos hs
  | case3 seen id r hr hs target hn ih =>
    rw [followGuarded_step seen hid, hr]
    dsimp only
    rw [if_neg hs, hn]
    exact ih (lt_size_of_resolve hn)
  | case4 seen id r hr hs e hn =>
    rw [followGuarded_step seen hid, hr]
    dsimp only
    rw [if_neg hs, hn]

/-- Only nodes of the graph have names. -/
structure Inside (g : Graph) (trail : Trail) (done : Finished) : Prop where
  classes : ∀ entry ∈ trail.classes, entry.1 < g.size
  done : ∀ entry ∈ done, entry.1 < g.size

theorem Inside.outermost {done : Finished} (h : ∀ entry ∈ done, entry.1 < g.size) :
    g.Inside {} done :=
  ⟨List.forall_mem_nil _, h⟩

theorem Inside.enter {trail : Trail} {done : Finished} (h : g.Inside trail done)
    (hid : id < g.size) (name : String) : g.Inside ⟨(id, name) :: trail.classes, []⟩ done :=
  ⟨List.forall_mem_cons.mpr ⟨hid, h.classes⟩, h.done⟩

theorem Inside.owner {trail : Trail} {done : Finished} (h : g.Inside trail done) {name : String}
    {owner : NodeId} (ho : owner? trail done name = some owner) : owner < g.size := by
  rcases Option.or_eq_some_iff.mp ho with ho | ⟨-, ho⟩
  · obtain ⟨entry, he, rfl⟩ := Option.map_eq_some_iff.mp ho
    exact h.classes entry (List.mem_of_find?_eq_some he)
  · obtain ⟨entry, he, rfl⟩ := Option.map_eq_some_iff.mp ho
    exact h.done entry (List.mem_of_find?_eq_some he)

/-- The properties of an object are stored in its node. -/
theorem properties_of_shape {n : Node} {properties : List (String × NodeId)}
    (hs : n.shape = .object properties) : n.properties = properties := by
  unfold Node.shape at hs
  split at hs
  all_goals try split at hs
  all_goals cases hs
  all_goals rfl

theorem items_of_shape {n : Node} {items : Option NodeId} (hs : n.shape = .array items) :
    n.items = items := by
  unfold Node.shape at hs
  split at hs
  all_goals try split at hs
  all_goals cases hs
  all_goals rfl

theorem Closed.property (hc : g.Closed) {properties : List (String × NodeId)}
    (hs : (g.node id).shape = .object properties) (hints : Hints) (className : String) :
    ∀ p ∈ namedProperties hints className properties, p.child < g.size := by
  intro p hp
  have hmem : p.declared ∈ properties := by
    rw [← map_declared_namedProperties hints className properties]
    exact List.mem_map_of_mem hp
  refine hc.children id _ (List.mem_append_left _ (List.mem_append_left _ ?_))
  rw [properties_of_shape hs]
  exact List.mem_map_of_mem hmem

theorem Closed.items (hc : g.Closed) {items : NodeId}
    (hs : (g.node id).shape = .array (some items)) : items < g.size := by
  refine hc.children id _ (List.mem_append_left _ (List.mem_append_right _ ?_))
  rw [items_of_shape hs]
  exact List.mem_singleton_self items

end Graph

namespace Run

variable {r : Run}

theorem forall_mem_concat {done : Finished} {entry : NodeId × Model} {n : Nat}
    (h : ∀ e ∈ done, e.1 < n) (he : entry.1 < n) : ∀ e ∈ done ++ [entry], e.1 < n :=
  List.forall_mem_append.mpr ⟨h, List.forall_mem_singleton.mpr he⟩

mutual

/-- Models are finished for nodes of the graph alone: only such a node has a shape. -/
theorem TypeOf.keeps_inside {trail : Trail} {site : Site} {id : NodeId} {done done' : Finished}
    {t : TypeRef} (hd : ∀ entry ∈ done, entry.1 < r.graph.size) :
    r.TypeOf trail site id done t done' → ∀ entry ∈ done', entry.1 < r.graph.size
  | .oldEnum _ _ | .oldClass _ _ | .plain _ => hd
  | .newEnum hs _ _ _ =>
    forall_mem_concat hd (List.mem_range.mp (Graph.mem_range_of_shape hs nofun))
  | .newClass hs _ _ _ hp =>
    forall_mem_concat (hp.keeps_inside hd) (List.mem_range.mp (Graph.mem_range_of_shape hs nofun))
  | .items _ _ _ ht => ht.keeps_inside hd

theorem PropertiesOf.keeps_inside {trail : Trail} {owner : NodeId} {name : String}
    {properties : List NamedProperty} {done done' : Finished} {types : List Property}
    (hd : ∀ entry ∈ done, entry.1 < r.graph.size) :
    r.PropertiesOf trail owner name properties done types done' →
      ∀ entry ∈ done', entry.1 < r.graph.size
  | .nil => hd
  | .cons _ ht hp => hp.keeps_inside (ht.keeps_inside hd)

end

/-! ## walks inside of the graph -/

section
variable {trail : Trail} {done : Finished} {id : NodeId}

theorem claimGuarded_eq (hi : r.graph.Inside trail done) (hid : id < r.graph.size) (name : String) :
    r.claimGuarded trail done name id = lift (r.claim trail done name id) := by
  rw [claimGuarded, claim]
  cases ho : owner? trail done name with
  | none => rfl
  | some owner =>
    dsimp only
    rw [Graph.access_eq (hi.owner ho), Graph.access_eq hid]
    rfl

theorem enumGuarded_eq (hi : r.graph.Inside trail done) (hid : id < r.graph.size) (site : Site)
    (values : List String) :
    r.enumGuarded trail site id values done = lift (r.enumType trail site id values done) := by
  rw [enumGuarded, enumType]
  cases hg : givenName? trail done id with
  | some name => rfl
  | none =>
    refine lift_bind fun e _ => ?_
    rw [claimGuarded_eq hi hid]
    exact lift_bind fun _ _ => rfl

theorem propertiesGuarded_eq {owner : NodeId} {className : String}
    {type : Site → NodeId → Finished → Limited (TypeRef × Finished)} (ho : owner < r.graph.size)
    (h : ∀ site id done, id < r.graph.size → r.graph.Inside trail done →
      type site id done = lift (r.typeOf trail site id done))
    (properties : List NamedProperty) (hc : ∀ p ∈ properties, p.child < r.graph.size)
    (hi : r.graph.Inside trail done) :
    r.propertiesGuarded type owner className properties done =
      lift (r.propertiesOf trail owner className properties done) := by
  induction properties generalizing done with
  | nil =>
    rw [propertiesGuarded, propertiesOf]
    rfl
  | cons p rest ih =>
    obtain ⟨hp, hrest⟩ := List.forall_mem_cons.mp hc
    rw [propertiesGuarded, propertiesOf, Graph.followGuarded_eq [] hp]
    refine lift_bind fun target hf => ?_
    rw [h _ target done (Graph.lt_size_of_follow hp hf) hi]
    refine lift_bind fun (t, done₁) ht => ?_
    dsimp only
    rw [Graph.access_eq ho, Graph.access_eq hp]
    show r.propertiesGuarded type owner className rest done₁ >>= _ = _
    rw [ih hrest ⟨hi.classes, (typeOf_ok r _ _ _ _ ht).keeps_inside hi.done⟩]
    exact lift_bind fun _ _ => rfl

/-- By recursion as the walk goes: the ids with which it goes on are stored in nodes of the graph,
or references lead to them. -/
theorem typeGuarded_eq (hc : r.graph.Closed) (trail : Trail) (site : Site) (id : NodeId)
    (done : Finished) (hid : id < r.graph.size) (hi : r.graph.Inside trail done) :
    r.typeGuarded trail site id done = lift (r.typeOf trail site id done) := by
  have hnode := Graph.getElem?_node hid
  rw [typeGuarded, typeOf_eq]
  split
  · next hn => cases hn.symm.trans hnode
  · next n hn =>
    cases hn.symm.trans hnode
    cases hs : (r.graph.node id).shape with
    | enumeration values => exact enumGuarded_eq hi hid site values
    | object properties =>
      dsimp only
      split
      · next name hg => rw [hg]; rfl
      · next hg =>
        rw [hg, claimGuarded_eq hi hid]
        refine lift_bind fun _ _ => ?_
        rw [propertiesGuarded_eq hid
          (fun site target done htarget hinside =>
            typeGuarded_eq hc _ site target done htarget hinside)
          _ (hc.property hs _ _) (hi.enter hid _)]
        exact lift_bind fun _ _ => rfl
    | array items =>
      dsimp only
      split
      · rfl
      · next ha =>
        cases items with
        | none => rfl
        | some items =>
          dsimp only
          rw [Graph.followGuarded_eq [] (hc.items hs)]
          refine lift_bind fun target hf => ?_
          rw [typeGuarded_eq hc ⟨trail.classes, id :: trail.arrays⟩ _ target done
            (Graph.lt_size_of_follow (hc.items hs) hf) ⟨hi.classes, hi.done⟩]
          exact lift_bind fun _ _ => rfl
    | string | integer | number | boolean | null | unconstrained => rfl
termination_by (unseen (List.range r.graph.size) (trail.classes.map Prod.fst),
  unseen (List.range r.graph.size) trail.arrays)
decreasing_by
  · exact Prod.Lex.left _ _ (unseen_cons_lt (List.mem_range.mpr hid)
      (not_mem_of_givenName? (by assumption)))
  · exact Prod.Lex.right _ (unseen_cons_lt (List.mem_range.mpr hid) (by assumption))

theorem definitionGuarded_eq (hc : r.graph.Closed) {definition : String × NodeId}
    (hd : definition.2 < r.graph.size) (hi : ∀ entry ∈ done, entry.1 < r.graph.size) :
    r.definitionGuarded done definition = lift (r.definitionOf done definition) := by
  unfold definitionGuarded definitionOf
  rw [Graph.followGuarded_eq [] hd]
  refine lift_bind fun target hf => ?_
  by_cases hn : target ≠ definition.2
  · rw [if_pos hn, if_pos hn]
    rfl
  · rw [if_neg hn, if_neg hn,
      typeGuarded_eq hc _ _ target done (Graph.lt_size_of_follow hd hf) (.outermost hi)]
    exact lift_bind fun _ _ => rfl

theorem definitionsGuarded_eq (hc : r.graph.Closed) (definitions : List (String × NodeId))
    (hd : ∀ d ∈ definitions, d.2 < r.graph.size) (hi : ∀ entry ∈ done, entry.1 < r.graph.size) :
    definitions.foldlM r.definitionGuarded done =
      lift (definitions.foldlM r.definitionOf done) := by
  induction definitions generalizing done with
  | nil => rfl
  | cons d rest ih =>
    obtain ⟨hfirst, hrest⟩ := List.forall_mem_cons.mp hd
    rw [List.foldlM_cons, List.foldlM_cons, definitionGuarded_eq hc hfirst hi]
    refine lift_bind fun done₁ hd₁ => ih hrest ?_
    have hone : [d].foldlM r.definitionOf done = .ok done₁ := by
      rw [List.foldlM_cons, hd₁]
      rfl
    exact (definitionsOf_ok hone).preserves
      (fun _ _ _ _ _ _ ht hinside => ht.keeps_inside hinside) hi

theorem walkGuarded_eq (hc : r.graph.Closed) : r.walkGuarded = lift r.walk := by
  unfold walkGuarded walk
  rw [typeGuarded_eq hc _ _ _ _ hc.root (.outermost (List.forall_mem_nil _))]
  refine lift_bind fun (t, done₀) ht => ?_
  have hinside := (typeOf_ok r _ _ _ _ ht).keeps_inside (List.forall_mem_nil _)
  dsimp only
  rw [Graph.access_eq hc.root]
  refine definitionsGuarded_eq hc _ (fun d hd => ?_) hinside
  exact hc.children r.graph.root _ (List.mem_append_right _ (List.mem_map_of_mem hd))

/-- In a closed graph no run reads a node outside. -/
theorem modelsGuarded_eq (hc : r.graph.Closed) : r.modelsGuarded = lift r.models := by
  unfold modelsGuarded models
  refine lift_bind fun _ _ => ?_
  rw [Graph.access_eq hc.root]
  show (if r.rootIsObject = true then _ else _) = _
  by_cases hroot : r.rootIsObject = true
  · rw [if_pos hroot, if_pos hroot, walkGuarded_eq hc]
    exact lift_bind fun _ _ => rfl
  · rw [if_neg hroot, if_neg hroot]

end

end Run

namespace Graph

/-- The root of a document is its last node, every other node is stored once, in a node with a
higher id, and all ids in the index or at the end of a reference are those of nodes. So neither
following references nor a run for models reads a node outside of the graph. -/
theorem runs_stay_inside {document : Json} {g : Graph} (h : ofJson document = .ok g) :
    g.Numbered ∧
    (∀ tree index, Schema.Tree.read [] document = .ok tree → Index.ofTree tree = .ok index →
      (∀ entry ∈ index.fragments, entry.2 < g.size) ∧ ∀ entry ∈ index.names, entry.1 < g.size) ∧
    (∀ r id, g.resolve r = .ok id → id < g.size) ∧
    (∀ id < g.size, g.followGuarded [] id = lift (g.follow id) ∧
      ∀ target, g.follow id = .ok target → target < g.size) ∧
    ∀ hints settings,
      Run.modelsGuarded ⟨g, hints, settings⟩ = lift (Run.models ⟨g, hints, settings⟩) :=
  ⟨numbered_of_ofJson h, fun _ _ => lt_size_of_index h, fun _ _ => lt_size_of_resolve,
    fun _ hid => ⟨followGuarded_eq [] hid, fun _ => lt_size_of_follow hid⟩,
    fun _ _ => Run.modelsGuarded_eq (closed_of_ofJson h)⟩

/-- A graph that is not closed: its only property has the id of no node. -/
example : Run.modelsGuarded ⟨⟨#[{ type := some .object, properties := [("lost", 1)] }]⟩, {},
    { namespaceName := "N", rootClassName := "Open" }⟩ = giveUp := by cbv

/-- Definitions in definitions: seven nodes, and an index with their ids. -/
theorem runs_stay_inside_nested : ∃ g, ofJson nested = .ok g ∧ g.size = 7 ∧ g.Numbered ∧
    (∃ tree index, Schema.Tree.read [] nested = .ok tree ∧ Index.ofTree tree = .ok index ∧
      (∀ entry ∈ index.fragments, entry.2 < g.size) ∧ ∀ entry ∈ index.names, entry.1 < g.size) ∧
    ∀ hints settings,
      Run.modelsGuarded ⟨g, hints, settings⟩ = lift (Run.models ⟨g, hints, settings⟩) := by
  obtain ⟨g, hg⟩ : ∃ g, ofJson nested = .ok g := ⟨_, rfl⟩
  have hsize : g.size = 7 := by
    cases hg
    rfl
  obtain ⟨tree, hread, hindex, -⟩ := isOf_of_read (Json.distinct_of_read read_nestedText) hg
  obtain ⟨hnumbered, hrange, -, -, hmodels⟩ := runs_stay_inside hg
  exact ⟨g, hg, hsize, hnumbered, ⟨tree, _, hread, hindex, hrange tree _ hread hindex⟩, hmodels⟩

end Graph

end SchemaModel
