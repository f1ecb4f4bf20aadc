import SchemaModel.Hint.Reader
import SchemaModel.Schema.Support
import SchemaModel.Synthesis.Walk

/-!
# The models of a schema

A run checks its settings, walks from the root of the schema, which must describe an object, and
then from every definition of the root that was not reached. It gives all models or an error.
-/

namespace SchemaModel

namespace Run

/-- The root describes an object and is no reference. -/
def rootIsObject (r : Run) : Bool :=
  let root := r.graph.node r.graph.root
  root.reference.isNone && match root.shape with
    | .object _ => true
    | _ => false

/-- the models of a run -/
def models (r : Run) : Except Error ModelSet := do
  r.settings.check
  if r.rootIsObject then
    return (← r.walk).map Prod.snd
  else .error .rootNotObject

end Run

/-- The models of the schema in a text, with the hints in another. Settings are checked before any
text is read, and the hints are read before the schema. -/
def ModelSet.ofText (settings : Settings) (hints : Option String) (schema : String) :
    Except Error ModelSet := do
  settings.check
  let hints ← Hints.read? hints
  let document ← Graph.parse schema
  if settings.denyUnsupported then Schema.checkSupported document
  let graph ← Graph.ofJson document
  Run.models ⟨graph, hints, settings⟩

end SchemaModel
