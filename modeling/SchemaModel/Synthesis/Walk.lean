import SchemaModel.Synthesis.Enumeration
import SchemaModel.Synthesis.Site

/-!
# The walk through a schema graph

The walk finds the type of every schema it reaches and finishes the models of objects and
enumerations on the way, each once. The trail says where the walk stands: in which classes whose
properties are not yet all read, and in which arrays since the innermost of these classes. A class
has its name from the moment it is entered, so that its properties may refer to it.

* `lt_size_of_shape`   only a node of the graph has a shape.
-/

namespace SchemaModel

/-- what a run is about -/
structure Run where
  graph : Graph
  hints : Hints
  settings : Settings

/-- where a walk stands -/
structure Trail where
  /-- the classes entered and not left, with their names, the innermost first -/
  classes : List (NodeId × String) := []
  /-- the arrays entered since then, the innermost first -/
  arrays : List NodeId := []
  deriving DecidableEq, Repr

/-- finished models with the nodes they come from, in order -/
abbrev Finished := List (NodeId × Model)

/-- the name that a node has got already -/
def givenName? (trail : Trail) (done : Finished) (id : NodeId) : Option String :=
  (trail.classes.lookup id).or ((done.lookup id).map Model.name)

/-- the node that has got a name already -/
def owner? (trail : Trail) (done : Finished) (name : String) : Option NodeId :=
  ((trail.classes.find? (·.2 = name)).map Prod.fst).or
    ((done.find? (·.2.name = name)).map Prod.fst)

theorem lt_size_of_shape {g : Graph} {id : NodeId} (h : (g.node id).shape ≠ .unconstrained) :
    id < g.size := by
  unfold Graph.node at h
  cases hn : g.nodes[id]? with
  | none =>
    rw [hn] at h
    exact absurd rfl h
  | some n => exact (Array.getElem?_eq_some_iff.mp hn).1

theorem not_mem_of_givenName? {trail : Trail} {done : Finished} {id : NodeId}
    (h : givenName? trail done id = none) : id ∉ trail.classes.map Prod.fst := by
  have hl := (Option.or_eq_none_iff.mp h).1
  rw [List.lookup_eq_none_iff] at hl
  intro hm
  obtain ⟨entry, he, rfl⟩ := List.mem_map.mp hm
  simpa using hl entry he

namespace Run

/-- A name is given to a node, unless another node has it. -/
def claim (r : Run) (trail : Trail) (done : Finished) (name : String) (id : NodeId) :
    Except Error Unit :=
  match owner? trail done name with
  | none => .ok ()
  | some owner => .error (.typeNameConflict name
      (r.graph.node owner).pointer.fragment (r.graph.node id).pointer.fragment)

/-- the enumeration of a node, as it is reached -/
def enumSite (r : Run) (site : Site) (id : NodeId) (values : List String) : EnumSite where
  propertyKey := site.propertyKey
  definition := (r.graph.node id).pointer.definition?
  pointer := (r.graph.node id).pointer.text
  description := (r.graph.node id).description
  values

/-- The type of an enumeration. Its model is finished when it is reached first. -/
def enumType (r : Run) (trail : Trail) (site : Site) (id : NodeId) (values : List String)
    (done : Finished) : Except Error (TypeRef × Finished) :=
  match givenName? trail done id with
  | some name => .ok (.enumNamed name, done)
  | none => do
    let e ← (r.enumSite site id values).synthesize r.hints
    r.claim trail done e.typeName id
    let model := .ofEnum ⟨r.settings.namespaceName, e.typeName, e.description, e.members⟩
    return (.enumNamed e.typeName, done ++ [(id, model)])

/-- the model of a class whose properties are known -/
def classModel (r : Run) (name : String) (id : NodeId) (properties : List Property) :
    ClassModel where
  namespaceName := r.settings.namespaceName
  name
  description := (r.graph.node id).description
  properties
  overrides := r.settings.overrides

/-- A property of a class whose type is known. The description is that of the schema in the
property itself, not of one that it refers to. -/
def property (r : Run) (owner : NodeId) (p : NamedProperty) (type : TypeRef) : Property where
  name := p.name
  jsonName := p.jsonName
  type
  required := (r.graph.node owner).requires p.jsonName
  description := (r.graph.node p.child).description

mutual

/-- The type of a node without a reference. -/
def typeOf (r : Run) (trail : Trail) (site : Site) (id : NodeId) (done : Finished) :
    Except Error (TypeRef × Finished) :=
  match _hs : (r.graph.node id).shape with
  | .enumeration values => r.enumType trail site id values done
  | .object properties =>
    match _hg : givenName? trail done id with
    | some name => .ok (.classNamed name, done)
    | none => do
      let name := className r.graph r.hints site id
      r.claim trail done name id
      let (types, done) ← r.propertiesOf ⟨(id, name) :: trail.classes, []⟩ id name
        (namedProperties r.hints name properties) done
      return (.classNamed name, done ++ [(id, .ofClass (r.classModel name id types))])
  | .array items =>
    if _ha : id ∈ trail.arrays then
      .error (.invalidSchema (r.graph.node id).pointer.text .arrayOfItself)
    else
      match items with
      | none => .ok (.sequence .any, done)
      | some items => do
        let target ← r.graph.follow items
        let (element, done) ←
          r.typeOf ⟨trail.classes, id :: trail.arrays⟩ site.items target done
        return (.sequence element, done)
  | .string format =>
    .ok (if format = some "date-time" then .dateTime else .string, done)
  | .integer => .ok (.integer, done)
  | .number => .ok (.number, done)
  | .boolean => .ok (.boolean, done)
  | .null | .unconstrained => .ok (.any, done)
termination_by (unseen (List.range r.graph.size) (trail.classes.map Prod.fst),
  unseen (List.range r.graph.size) trail.arrays, 0)
decreasing_by
  · exact Prod.Lex.left _ _ (unseen_cons_lt
      (List.mem_range.mpr (lt_size_of_shape (by simp [_hs]))) (not_mem_of_givenName? _hg))
  · exact Prod.Lex.right _ (Prod.Lex.left _ _ (unseen_cons_lt
      (List.mem_range.mpr (lt_size_of_shape (by simp [_hs]))) _ha))

/-- the properties of a class, with their types -/
def propertiesOf (r : Run) (trail : Trail) (owner : NodeId) (className : String) :
    List NamedProperty → Finished → Except Error (List Property × Finished)
  | [], done => .ok ([], done)
  | p :: rest, done => do
    let target ← r.graph.follow p.child
    let (type, done) ← r.typeOf trail (.ofProperty className p.jsonName) target done
    let (others, done) ← r.propertiesOf trail owner className rest done
    return (r.property owner p type :: others, done)
termination_by properties => (unseen (List.range r.graph.size) (trail.classes.map Prod.fst),
  unseen (List.range r.graph.size) trail.arrays, properties.length + 1)

end

/-- The walk from one definition of the root. One that is a reference is left to the definition
that it leads to. -/
def definitionOf (r : Run) (done : Finished) (definition : String × NodeId) :
    Except Error Finished := do
  let target ← r.graph.follow definition.2
  if target ≠ definition.2 then return done
  let (_, done) ← r.typeOf {} { inlineName := Naming.typeName definition.1 } target done
  return done

/-- the walk from the root, and then from every definition of the root -/
def walk (r : Run) : Except Error Finished := do
  let site : Site := { inlineName := Naming.typeName r.settings.rootClassName }
  let (_, done) ← r.typeOf {} site r.graph.root []
  (r.graph.node r.graph.root).definitions.foldlM r.definitionOf done

end Run

end SchemaModel
