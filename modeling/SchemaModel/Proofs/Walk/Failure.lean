import SchemaModel.Proofs.Graph.Chains
import SchemaModel.Proofs.Graph.References

/-!
# Walks that end with an error, as derivations

A walk stops at the first fault, so a walk with an error is a way from the node where it starts to
the place of the fault, past nodes from which walks end well. There is one rule for every way in
which a node cannot get its type, and one for every node behind which this happens. What holds at
every fault is shown by induction on these derivations, one case per rule.

* `typeOf_error`         a walk from a node with an error is a derivation of `TypeFails`;
* `propertiesOf_error`   the same for the properties of a class;
* `walk_error`           the whole walk: the root first, then the definitions in order;
* `models_error`         a run ends with an error of its settings, of its root or of its walk.
-/

namespace SchemaModel

/-! ## errors of the parts -/

/-- Following references fails with an unresolved one. -/
theorem Graph.follow_error {g : Graph} {id : NodeId} {e : Error} (h : g.follow id = .error e) :
    ∃ text reason, e = .unresolvedReference text reason := by
  rcases follow_error_iff.mp h with ⟨_, _, r, -, -, -, -, rfl⟩ | ⟨_, _, r, -, -, he⟩
  · exact ⟨_, _, rfl⟩
  · obtain ⟨reason, rfl⟩ := resolve_error he
    exact ⟨_, reason, rfl⟩

/-- An enumeration fails for want of a name, or with the number of its members. -/
theorem EnumSite.synthesize_error {site : EnumSite} {hints : Hints} {e : Error}
    (h : site.synthesize hints = .error e) :
    e = .namelessEnum site.place ∨
      ∃ typeName hinted, e = .memberCount typeName hinted site.values.length := by
  unfold synthesize apply at h
  split at h
  · cases h
    exact .inl rfl
  · dsimp only at h
    split at h
    · cases h
      exact .inr ⟨_, _, rfl⟩
    · cases h

namespace Run

mutual

/-- `r.TypeFails trail site id done e`: the walk stands at `trail` and has finished `done`; from the
node `id`, reached at `site`, it comes to the error `e`. -/
inductive TypeFails (r : Run) : Trail → Site → NodeId → Finished → Error → Prop
  /-- an enumeration that cannot be made -/
  | enumeration {trail site id done values e}
      (hs : (r.graph.node id).shape = .enumeration values)
      (hg : givenName? trail done id = none)
      (he : (r.enumSite site id values).synthesize r.hints = .error e) :
      TypeFails r trail site id done e
  /-- an enumeration or a class whose name another node has -/
  | enumTaken {trail site id done values made owner}
      (hs : (r.graph.node id).shape = .enumeration values)
      (hg : givenName? trail done id = none)
      (he : (r.enumSite site id values).synthesize r.hints = .ok made)
      (ho : owner? trail done made.typeName = some owner) :
      TypeFails r trail site id done (.typeNameConflict made.typeName
        (r.graph.node owner).pointer.fragment (r.graph.node id).pointer.fragment)
  | classTaken {trail site id done properties name owner}
      (hs : (r.graph.node id).shape = .object properties)
      (hg : givenName? trail done id = none)
      (hn : className r.graph r.hints site id = name)
      (ho : owner? trail done name = some owner) :
      TypeFails r trail site id done (.typeNameConflict name
        (r.graph.node owner).pointer.fragment (r.graph.node id).pointer.fragment)
  /-- a class with a property from which the walk fails -/
  | properties {trail site id done properties name e}
      (hs : (r.graph.node id).shape = .object properties)
      (hg : givenName? trail done id = none)
      (hn : className r.graph r.hints site id = name)
      (ho : owner? trail done name = none)
      (hp : PropertiesFail r ⟨(id, name) :: trail.classes, []⟩ id name
        (namedProperties r.hints name properties) done e) :
      TypeFails r trail site id done e
  /-- an array that is open already -/
  | openArray {trail site id done items}
      (hs : (r.graph.node id).shape = .array items) (ha : id ∈ trail.arrays) :
      TypeFails r trail site id done
        (.invalidSchema (r.graph.node id).pointer.text .arrayOfItself)
  /-- an array whose items lead nowhere, or from whose items the walk fails -/
  | itemsNowhere {trail site id done items e}
      (hs : (r.graph.node id).shape = .array (some items))
      (ha : id ∉ trail.arrays)
      (hf : r.graph.follow items = .error e) :
      TypeFails r trail site id done e
  | items {trail site id done items target e}
      (hs : (r.graph.node id).shape = .array (some items))
      (ha : id ∉ trail.arrays)
      (hf : r.graph.follow items = .ok target)
      (ht : TypeFails r ⟨trail.classes, id :: trail.arrays⟩ site.items target done e) :
      TypeFails r trail site id done e

/-- The same for the properties of the class `name` of the node `owner`, in order. -/
inductive PropertiesFail (r : Run) : Trail → NodeId → String → List NamedProperty → Finished →
    Error → Prop
  | nowhere {trail owner name p rest done e} (hf : r.graph.follow p.child = .error e) :
      PropertiesFail r trail owner name (p :: rest) done e
  | first {trail owner name p rest done target e} (hf : r.graph.follow p.child = .ok target)
      (ht : TypeFails r trail (.ofProperty name p.jsonName) target done e) :
      PropertiesFail r trail owner name (p :: rest) done e
  | later {trail owner name p rest done target t done₁ e}
      (hf : r.graph.follow p.child = .ok target)
      (ht : r.TypeOf trail (.ofProperty name p.jsonName) target done t done₁)
      (hp : PropertiesFail r trail owner name rest done₁ e) :
      PropertiesFail r trail owner name (p :: rest) done e

end

section
variable {r : Run} {trail : Trail} {site : Site} {id : NodeId} {done : Finished} {e : Error}

theorem claim_error {name : String} (h : r.claim trail done name id = .error e) :
    ∃ owner, owner? trail done name = some owner ∧
      e = .typeNameConflict name (r.graph.node owner).pointer.fragment
        (r.graph.node id).pointer.fragment := by
  unfold claim at h
  split at h
  · cases h
  · next owner ho =>
    cases h
    exact ⟨owner, ho, rfl⟩

theorem enumType_error {values : List String}
    (hs : (r.graph.node id).shape = .enumeration values)
    (h : r.enumType trail site id values done = .error e) :
    r.TypeFails trail site id done e := by
  unfold enumType at h
  cases hg : givenName? trail done id with
  | some name =>
    rw [hg] at h
    cases h
  | none =>
    rw [hg] at h
    rcases bind_error h with he | ⟨made, he, h⟩
    · exact .enumeration hs hg he
    · rcases bind_error h with hc | ⟨_, _, h⟩
      · obtain ⟨owner, ho, rfl⟩ := claim_error hc
        exact .enumTaken hs hg he ho
      · cases h

end

mutual

theorem typeOf_error (r : Run) (trail : Trail) (site : Site) (id : NodeId) (done : Finished)
    {e : Error} (h : r.typeOf trail site id done = .error e) :
    r.TypeFails trail site id done e := by
  rw [typeOf] at h
  split at h
  next values hs => exact enumType_error hs h
  next properties hs =>
    split at h
    next => cases h
    next hg =>
      rcases bind_error h with hc | ⟨_, hc, h⟩
      · obtain ⟨owner, ho, rfl⟩ := claim_error hc
        exact .classTaken hs hg rfl ho
      · rcases bind_error h with hp | ⟨_, _, h⟩
        · exact .properties hs hg rfl (claim_ok hc) (propertiesOf_error r _ _ _ _ _ hp)
        · cases h
  next items hs =>
    split at h
    next ha =>
      cases h
      exact .openArray hs ha
    next ha =>
      split at h
      next => cases h
      next items hs =>
        rcases bind_error h with hf | ⟨target, hf, h⟩
        · exact .itemsNowhere hs ha hf
        · rcases bind_error h with ht | ⟨_, _, h⟩
          · exact .items hs ha hf (typeOf_error r _ _ _ _ ht)
          · cases h
  all_goals cases h
-- the measure of `typeOf`: a walk takes the same steps until it fails
termination_by (unseen (List.range r.graph.size) (trail.classes.map Prod.fst),
  unseen (List.range r.graph.size) trail.arrays, 0)
decreasing_by
  · exact Prod.Lex.left _ _ (unseen_cons_lt
      (Graph.mem_range_of_shape ‹_ = Shape.object _› nofun) (not_mem_of_givenName? ‹_›))
  · exact Prod.Lex.right _ (Prod.Lex.left _ _ (unseen_cons_lt
      (Graph.mem_range_of_shape ‹_ = Shape.array _› nofun) (by assumption)))

theorem propertiesOf_error (r : Run) (trail : Trail) (owner : NodeId) (className : String)
    (properties : List NamedProperty) (done : Finished) {e : Error}
    (h : r.propertiesOf trail owner className properties done = .error e) :
    r.PropertiesFail trail owner className properties done e := by
  cases properties with
  | nil =>
    rw [propertiesOf] at h
    cases h
  | cons p rest =>
    rw [propertiesOf] at h
    rcases bind_error h with hf | ⟨target, hf, h⟩
    · exact .nowhere hf
    · rcases bind_error h with ht | ⟨⟨t, done₁⟩, ht, h⟩
      · exact .first hf (typeOf_error r _ _ _ _ ht)
      · rcases bind_error h with hp | ⟨_, _, h⟩
        · exact .later hf (typeOf_ok r _ _ _ _ ht) (propertiesOf_error r _ _ _ rest _ hp)
        · cases h
termination_by (unseen (List.range r.graph.size) (trail.classes.map Prod.fst),
  unseen (List.range r.graph.size) trail.arrays, properties.length + 1)

end

/-! ## the whole walk -/

/-- A walk from definitions of the root, in order, that comes to the error `e`. -/
inductive DefinitionsFail (r : Run) : List (String × NodeId) → Finished → Error → Prop
  | nowhere {d rest done e} (hf : r.graph.follow d.2 = .error e) :
      DefinitionsFail r (d :: rest) done e
  | first {d rest done e} (hf : r.graph.follow d.2 = .ok d.2)
      (ht : r.TypeFails {} { inlineName := Naming.typeName d.1 } d.2 done e) :
      DefinitionsFail r (d :: rest) done e
  /-- behind a definition that is a reference -/
  | reference {d rest done target e} (hf : r.graph.follow d.2 = .ok target) (hn : target ≠ d.2)
      (hd : DefinitionsFail r rest done e) : DefinitionsFail r (d :: rest) done e
  | later {d rest done t done₁ e} (hf : r.graph.follow d.2 = .ok d.2)
      (ht : r.TypeOf {} { inlineName := Naming.typeName d.1 } d.2 done t done₁)
      (hd : DefinitionsFail r rest done₁ e) : DefinitionsFail r (d :: rest) done e

theorem definitionsOf_error {r : Run} {definitions : List (String × NodeId)} {done : Finished}
    {e : Error} (h : definitions.foldlM r.definitionOf done = .error e) :
    r.DefinitionsFail definitions done e := by
  induction definitions generalizing done with
  | nil => cases h
  | cons d rest ih =>
    rw [List.foldlM_cons] at h
    rcases bind_error h with hd | ⟨done₁, hd, h⟩ <;> unfold definitionOf at hd
    · rcases bind_error hd with hf | ⟨target, hf, hd⟩
      · exact .nowhere hf
      · by_cases hn : target = d.2
        · subst hn
          rw [if_neg (by simp)] at hd
          rcases bind_error hd with ht | ⟨_, _, hd⟩
          · exact .first hf (typeOf_error r _ _ _ _ ht)
          · cases hd
        · rw [if_pos hn] at hd
          cases hd
    · obtain ⟨target, hf, hd⟩ := bind_ok hd
      by_cases hn : target = d.2
      · subst hn
        rw [if_neg (by simp)] at hd
        obtain ⟨⟨t, done₂⟩, ht, hd⟩ := bind_ok hd
        cases hd
        exact .later hf (typeOf_ok r _ _ _ _ ht) (ih h)
      · rw [if_pos hn] at hd
        cases hd
        exact .reference hf hn (ih h)

theorem walk_error {r : Run} {e : Error} (h : r.walk = .error e) :
    r.TypeFails {} r.rootSite r.graph.root [] e ∨
      ∃ t done, r.TypeOf {} r.rootSite r.graph.root [] t done ∧
        r.DefinitionsFail (r.graph.node r.graph.root).definitions done e := by
  unfold walk at h
  rcases bind_error h with ht | ⟨⟨t, done⟩, ht, h⟩
  · exact .inl (typeOf_error r _ _ _ _ ht)
  · exact .inr ⟨t, done, typeOf_ok r _ _ _ _ ht, definitionsOf_error h⟩

theorem models_error {r : Run} {e : Error} (h : r.models = .error e) :
    r.settings.check = .error e ∨ e = .rootNotObject ∨
      r.rootIsObject = true ∧ r.walk = .error e := by
  unfold Run.models at h
  rcases bind_error h with hc | ⟨_, _, h⟩
  · exact .inl hc
  · split at h
    · next hr =>
      rcases bind_error h with hw | ⟨_, _, h⟩
      · exact .inr (.inr ⟨hr, hw⟩)
      · cases h
    · cases h
      exact .inr (.inl rfl)

end Run

end SchemaModel
