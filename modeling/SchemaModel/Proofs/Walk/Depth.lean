import SchemaModel.Proofs.Walk.Derivation

/-!
# How deep a walk nests its calls

The type of a node may need the type of another one before it is known, and this that of a third.
`typeWithin` finds types as `typeOf` does, but gives up where more calls are nested than it is
allowed. The type of a node is one call, and the class of an object is one call more, made by it.

Within one class at most all arrays are open, and a call for one more node ends there or enters a
class. At most all objects are entered. So a walk with as many nested calls as `nesting` says never
gives up: it has the result of the walk without a limit, be it models or an error.

* `room_enter`, `room_open`     what is left to enter or open gets less with every nested call;
* `typeWithin_eq`               the limit is not reached while there is room;
* `nesting_of_models_bounded`   so objects and arrays bound the nesting of the whole walk;
* `models_of_within`            and the models of a given schema can be found by evaluation.
-/

namespace SchemaModel

/-- a computation that may also give up, with neither a result nor an error -/
abbrev Limited := ExceptT Error Option

namespace Limited

/-- the computation that gives up -/
def giveUp : Limited α := ExceptT.mk none

/-- a computation that does not give up -/
def lift (x : Except Error α) : Limited α := ExceptT.mk (some x)

/-- A computation goes on without giving up if what follows does. -/
theorem lift_bind {x : Except Error α} {f : α → Limited β} {g : α → Except Error β}
    (h : ∀ a, x = .ok a → f a = lift (g a)) : lift x >>= f = lift (x >>= g) := by
  cases x with
  | error e => rfl
  | ok a => exact h a rfl

end Limited

open Limited

/-! ## walks with a limit -/

namespace Run

/-- The properties of a class, with `type` for the types of their nodes. -/
def propertiesVia (r : Run) (type : Site → NodeId → Finished → Limited (TypeRef × Finished))
    (owner : NodeId) (className : String) :
    List NamedProperty → Finished → Limited (List Property × Finished)
  | [], done => return ([], done)
  | p :: rest, done => do
    let target ← lift (r.graph.follow p.child)
    let (t, done) ← type (.ofProperty className p.jsonName) target done
    let (others, done) ← r.propertiesVia type owner className rest done
    return (r.property owner p t :: others, done)

mutual

/-- The type of a node without a reference, with no more than so many calls nested. -/
def typeWithin (r : Run) : Nat → Trail → Site → NodeId → Finished →
    Limited (TypeRef × Finished)
  | 0, _, _, _, _ => giveUp
  | depth + 1, trail, site, id, done =>
    match (r.graph.node id).shape with
    | .enumeration values => lift (r.enumType trail site id values done)
    | .object properties => r.classWithin depth trail site id properties done
    | .array items =>
      if id ∈ trail.arrays then
        lift (.error (.invalidSchema (r.graph.node id).pointer.text .arrayOfItself))
      else
        match items with
        | none => return (.sequence .any, done)
        | some items => do
          let target ← lift (r.graph.follow items)
          let (element, done) ←
            r.typeWithin depth ⟨trail.classes, id :: trail.arrays⟩ site.items target done
          return (.sequence element, done)
    | .string format => return (if format = some "date-time" then .dateTime else .string, done)
    | .integer => return (.integer, done)
    | .number => return (.number, done)
    | .boolean => return (.boolean, done)
    | .null | .unconstrained => return (.any, done)

/-- The type of an object. -/
def classWithin (r : Run) : Nat → Trail → Site → NodeId → List (String × NodeId) → Finished →
    Limited (TypeRef × Finished)
  | 0, _, _, _, _, _ => giveUp
  | depth + 1, trail, site, id, properties, done =>
    match givenName? trail done id with
    | some name => return (.classNamed name, done)
    | none => do
      let name := className r.graph r.hints site id
      lift (r.claim trail done name id)
      let (types, done) ← r.propertiesVia
        (r.typeWithin depth ⟨(id, name) :: trail.classes, []⟩) id name
        (namedProperties r.hints name properties) done
      return (.classNamed name, done ++ [(id, .ofClass (r.classModel name id types))])

end

/-- The walk from one definition of the root. -/
def definitionWithin (r : Run) (depth : Nat) (done : Finished) (definition : String × NodeId) :
    Limited Finished := do
  let target ← lift (r.graph.follow definition.2)
  if target ≠ definition.2 then return done
  let (_, done) ←
    r.typeWithin depth {} { inlineName := Naming.typeName definition.1 } target done
  return done

def walkWithin (r : Run) (depth : Nat) : Limited Finished := do
  let (_, done) ← r.typeWithin depth {} r.rootSite r.graph.root []
  (r.graph.node r.graph.root).definitions.foldlM (r.definitionWithin depth) done

/-- The models of a run, or nothing if more calls than `depth` are nested anywhere. -/
def modelsWithin (r : Run) (depth : Nat) : Limited ModelSet := do
  lift r.settings.check
  if r.rootIsObject then
    return (← r.walkWithin depth).map Prod.snd
  else lift (.error .rootNotObject)

end Run

/-! ## room for nested calls -/

def Shape.isObject : Shape → Bool
  | .object _ => true
  | _ => false

def Shape.isArray : Shape → Bool
  | .array _ => true
  | _ => false

namespace Graph

/-- the nodes without a reference that are objects -/
def objects (g : Graph) : List NodeId :=
  (List.range g.size).filter fun id => (g.node id).reference.isNone && (g.node id).shape.isObject

/-- the nodes without a reference that are arrays -/
def arrays (g : Graph) : List NodeId :=
  (List.range g.size).filter fun id => (g.node id).reference.isNone && (g.node id).shape.isArray

theorem mem_objects {g : Graph} {id : NodeId} {properties : List (String × NodeId)}
    (hr : (g.node id).reference = none) (hs : (g.node id).shape = .object properties) :
    id ∈ g.objects := by
  refine List.mem_filter.mpr ⟨mem_range_of_shape hs nofun, ?_⟩
  rw [hr, hs]
  rfl

theorem mem_arrays {g : Graph} {id : NodeId} {items : Option NodeId}
    (hr : (g.node id).reference = none) (hs : (g.node id).shape = .array items) :
    id ∈ g.arrays := by
  refine List.mem_filter.mpr ⟨mem_range_of_shape hs nofun, ?_⟩
  rw [hr, hs]
  rfl

/-- Within a class every array is one call, and behind them are two calls for a class. -/
def nesting (objects arrays : Nat) : Nat := (objects + 1) * (arrays + 2)

/-- the calls that can still be nested where a walk stands -/
def room (g : Graph) (trail : Trail) : Nat :=
  unseen g.objects (trail.classes.map Prod.fst) * (g.arrays.length + 2) +
    unseen g.arrays trail.arrays + 2

variable {g : Graph} {trail : Trail} {id : NodeId}

/-- Entering a class takes two calls; all arrays can be opened again. -/
theorem room_enter {name : String} (ho : id ∈ g.objects) (hn : id ∉ trail.classes.map Prod.fst) :
    g.room ⟨(id, name) :: trail.classes, []⟩ + 2 ≤ g.room trail := by
  have hclasses : unseen g.objects (id :: trail.classes.map Prod.fst) + 1 ≤
      unseen g.objects (trail.classes.map Prod.fst) := unseen_cons_lt ho hn
  have hmul := Nat.mul_le_mul_right (g.arrays.length + 2) hclasses
  have harrays : unseen g.arrays [] ≤ g.arrays.length := List.countP_le_length
  rw [Nat.succ_mul] at hmul
  show unseen g.objects (id :: trail.classes.map Prod.fst) * (g.arrays.length + 2) +
    unseen g.arrays [] + 2 + 2 ≤ _ + _ + 2
  omega

/-- Opening an array takes one call. -/
theorem room_open (ha : id ∈ g.arrays) (hn : id ∉ trail.arrays) :
    g.room ⟨trail.classes, id :: trail.arrays⟩ + 1 ≤ g.room trail := by
  have harrays : unseen g.arrays (id :: trail.arrays) < unseen g.arrays trail.arrays :=
    unseen_cons_lt ha hn
  show unseen g.objects (trail.classes.map Prod.fst) * (g.arrays.length + 2) +
    unseen g.arrays (id :: trail.arrays) + 2 + 1 ≤ _ + unseen g.arrays trail.arrays + 2
  omega

theorem room_le_nesting (g : Graph) (trail : Trail) :
    g.room trail ≤ nesting g.objects.length g.arrays.length := by
  have hclasses : unseen g.objects (trail.classes.map Prod.fst) ≤ g.objects.length :=
    List.countP_le_length
  have hmul := Nat.mul_le_mul_right (g.arrays.length + 2) hclasses
  have harrays : unseen g.arrays trail.arrays ≤ g.arrays.length := List.countP_le_length
  rw [nesting, Nat.succ_mul]
  unfold room
  omega

end Graph

namespace Run

/-! ## a limit that is not reached -/

section
variable {r : Run}

theorem propertiesVia_eq {trail : Trail} {owner : NodeId} {className : String}
    {type : Site → NodeId → Finished → Limited (TypeRef × Finished)}
    (h : ∀ site id done, (r.graph.node id).reference = none →
      type site id done = lift (r.typeOf trail site id done))
    (properties : List NamedProperty) (done : Finished) :
    r.propertiesVia type owner className properties done =
      lift (r.propertiesOf trail owner className properties done) := by
  induction properties generalizing done with
  | nil =>
    rw [propertiesVia, propertiesOf]
    rfl
  | cons p rest ih =>
    rw [propertiesVia, propertiesOf]
    refine lift_bind fun target hf => ?_
    rw [h _ target done (Graph.reference_of_follow hf)]
    refine lift_bind fun (t, done₁) _ => ?_
    show r.propertiesVia type owner className rest done₁ >>= _ = _
    rw [ih done₁]
    exact lift_bind fun _ _ => rfl

/-- The type of a node by its shape, without what makes the recursion end. -/
theorem typeOf_eq (r : Run) (trail : Trail) (site : Site) (id : NodeId) (done : Finished) :
    r.typeOf trail site id done =
      match (r.graph.node id).shape with
      | .enumeration values => r.enumType trail site id values done
      | .object properties =>
        match givenName? trail done id with
        | some name => .ok (.classNamed name, done)
        | none => do
          let name := className r.graph r.hints site id
          r.claim trail done name id
          let (types, done) ← r.propertiesOf ⟨(id, name) :: trail.classes, []⟩ id name
            (namedProperties r.hints name properties) done
          return (.classNamed name, done ++ [(id, .ofClass (r.classModel name id types))])
      | .array items =>
        if id ∈ trail.arrays then
          .error (.invalidSchema (r.graph.node id).pointer.text .arrayOfItself)
        else
          match items with
          | none => .ok (.sequence .any, done)
          | some items => do
            let target ← r.graph.follow items
            let (element, done) ←
              r.typeOf ⟨trail.classes, id :: trail.arrays⟩ site.items target done
            return (.sequence element, done)
      | .string format => .ok (if format = some "date-time" then .dateTime else .string, done)
      | .integer => .ok (.integer, done)
      | .number => .ok (.number, done)
      | .boolean => .ok (.boolean, done)
      | .null | .unconstrained => .ok (.any, done) := by
  rw [typeOf]
  split
  case h_2 =>
    next hs =>
    rw [hs]
    split
    next hg => simp only [hg]
    next hg => simp only [hg]
  case h_3 =>
    next hs =>
    split
    next ha => simp only [hs]
    next ha =>
      split
      next hs => simp only [hs]
      next hs => simp only [hs]
  all_goals next hs => rw [hs]

/-- The class of an object, if the limit is not reached for its properties. -/
theorem classWithin_eq {depth : Nat} {trail : Trail} {site : Site} {id : NodeId} {done : Finished}
    {properties : List (String × NodeId)} (hr : (r.graph.node id).reference = none)
    (hs : (r.graph.node id).shape = .object properties)
    (hroom : r.graph.room trail ≤ depth + 2)
    (h : ∀ trail site id done, (r.graph.node id).reference = none →
      r.graph.room trail ≤ depth →
        r.typeWithin depth trail site id done = lift (r.typeOf trail site id done)) :
    r.classWithin (depth + 1) trail site id properties done =
      lift (r.typeOf trail site id done) := by
  rw [classWithin, typeOf_eq, hs]
  dsimp only
  cases hg : givenName? trail done id with
  | some name => rfl
  | none =>
    refine lift_bind fun _ _ => ?_
    have hless : r.graph.room ⟨(id, className r.graph r.hints site id) :: trail.classes, []⟩ + 2 ≤
        r.graph.room trail :=
      Graph.room_enter (Graph.mem_objects hr hs) (not_mem_of_givenName? hg)
    rw [propertiesVia_eq fun site id done hr => h _ site id done hr (by omega)]
    exact lift_bind fun _ _ => rfl

/-- While there is room the limit is not reached. -/
theorem typeWithin_eq (depth : Nat) : ∀ trail site id done,
    (r.graph.node id).reference = none → r.graph.room trail ≤ depth →
      r.typeWithin depth trail site id done = lift (r.typeOf trail site id done) := by
  induction depth using Nat.strongRecOn with
  | ind depth ih =>
  intro trail site id done hr hroom
  have htwo : 2 ≤ r.graph.room trail := Nat.le_add_left 2 _
  obtain ⟨below, rfl⟩ : ∃ below, depth = below + 2 := ⟨depth - 2, by omega⟩
  rw [typeWithin]
  cases hs : (r.graph.node id).shape with
  | object properties =>
    exact classWithin_eq hr hs hroom (ih below (by omega))
  | array items =>
    rw [typeOf_eq, hs]
    dsimp only
    by_cases ha : id ∈ trail.arrays
    · rw [if_pos ha, if_pos ha]
    · rw [if_neg ha, if_neg ha]
      cases items with
      | none => rfl
      | some items =>
        have hless := Graph.room_open (Graph.mem_arrays hr hs) ha
        refine lift_bind fun target hf => ?_
        rw [ih (below + 1) (by omega) _ _ _ _ (Graph.reference_of_follow hf) (by omega)]
        exact lift_bind fun _ _ => rfl
  | enumeration | string | integer | number | boolean | null | unconstrained =>
    have hend := typeOf_eq r trail site id done
    rw [hs] at hend
    exact (congrArg lift hend).symm

theorem definitionWithin_eq {depth : Nat} (h : ∀ trail, r.graph.room trail ≤ depth)
    (done : Finished) (definition : String × NodeId) :
    r.definitionWithin depth done definition = lift (r.definitionOf done definition) := by
  unfold definitionWithin definitionOf
  refine lift_bind fun target hf => ?_
  by_cases hn : target ≠ definition.2
  · rw [if_pos hn, if_pos hn]
    rfl
  · rw [if_neg hn, if_neg hn,
      typeWithin_eq depth _ _ _ _ (Graph.reference_of_follow hf) (h _)]
    exact lift_bind fun _ _ => rfl

theorem definitionsWithin_eq {depth : Nat} (h : ∀ trail, r.graph.room trail ≤ depth)
    (definitions : List (String × NodeId)) (done : Finished) :
    definitions.foldlM (r.definitionWithin depth) done =
      lift (definitions.foldlM r.definitionOf done) := by
  induction definitions generalizing done with
  | nil => rfl
  | cons d rest ih =>
    rw [List.foldlM_cons, List.foldlM_cons, definitionWithin_eq h]
    exact lift_bind fun done₁ _ => ih done₁

theorem walkWithin_eq (hr : r.rootIsObject = true) :
    r.walkWithin (Graph.nesting r.graph.objects.length r.graph.arrays.length) = lift r.walk := by
  have hroom := Graph.room_le_nesting r.graph
  unfold walkWithin walk
  rw [typeWithin_eq _ _ _ _ _ (reference_of_rootIsObject hr) (hroom _)]
  exact lift_bind fun _ _ => definitionsWithin_eq hroom _ _

/-- A walk with a limit recurses on the limit, so it can be evaluated. The walk itself recurses on
what is left to visit, and there evaluation does not get through. -/
theorem walk_of_within {result : Except Error Finished} (hr : r.rootIsObject = true)
    (h : r.walkWithin (Graph.nesting r.graph.objects.length r.graph.arrays.length) =
      lift result) : r.walk = result :=
  Option.some.inj ((walkWithin_eq hr).symm.trans h)

/-- The models of a run, evaluated in the same way. -/
theorem models_of_within {result : Except Error ModelSet} (hs : r.settings.check = .ok ())
    (hr : r.rootIsObject = true)
    (h : List.map Prod.snd <$>
        r.walkWithin (Graph.nesting r.graph.objects.length r.graph.arrays.length) =
      lift result) : r.models = result := by
  have hmodels : r.models = List.map Prod.snd <$> r.walk := by
    rw [models, hs, if_pos hr]
    cases r.walk <;> rfl
  have hmap : List.map Prod.snd <$> lift r.walk = lift (List.map Prod.snd <$> r.walk) :=
    lift_bind fun _ _ => rfl
  rw [walkWithin_eq hr, hmap] at h
  exact hmodels.trans (Option.some.inj h)

end

/-- The nesting of calls in a walk is bounded by the numbers of objects and arrays alone: with no
more nested calls than that, every run has the result that it has without a limit. -/
theorem nesting_of_models_bounded (r : Run) :
    r.modelsWithin (Graph.nesting r.graph.objects.length r.graph.arrays.length) =
      lift r.models := by
  unfold modelsWithin models
  refine lift_bind fun _ _ => ?_
  by_cases hroot : r.rootIsObject = true
  · rw [if_pos hroot, if_pos hroot, walkWithin_eq hroot]
    exact lift_bind fun _ _ => rfl
  · rw [if_neg hroot, if_neg hroot]

/-- A class with a list of itself: the walk nests five calls, one less than the bound. -/
example : Run.modelsWithin ⟨⟨#[
      { reference := some (.fragment "#"), pointer := ["properties", "all", "items"] },
      { type := some .array, items := some 0, pointer := ["properties", "all"] },
      { type := some .object, properties := [("all", 1)] }]⟩, {},
    { namespaceName := "N", rootClassName := "Self" }⟩ 4 = giveUp := by cbv

end Run

end SchemaModel
