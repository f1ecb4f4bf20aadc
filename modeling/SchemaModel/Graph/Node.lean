import SchemaModel.Schema.Tree

/-!
# Nodes of a schema graph

A node is a schema whose nested schemas are replaced by their ids. Its pointer says where in the
document it stands, and so also whether a reference can address it: the root and the definitions
that are reached through definitions alone.
-/

namespace SchemaModel

namespace Pointer

/-- Only definitions lie on the way. -/
def isAddressable : Pointer → Bool
  | [] => true
  | [_] => false
  | keyword :: _ :: rest => keyword = "definitions" && isAddressable rest

/-- the name of the definition at a pointer -/
def definition? (p : Pointer) : Option String :=
  if p.isAddressable then p.getLast? else none

end Pointer

/-- a place in the list of nodes -/
abbrev NodeId := Nat

structure Node extends Schema.Content where
  pointer : Pointer := []
  properties : List (String × NodeId) := []
  items : Option NodeId := none
  definitions : List (String × NodeId) := []
  deriving Repr

/-- what the values of a schema without a reference look like -/
inductive Shape where
  | enumeration (values : List String)
  | object (properties : List (String × NodeId))
  | array (items : Option NodeId)
  | string (format : Option String)
  | integer
  | number
  | boolean
  | null
  | unconstrained
  deriving DecidableEq, Repr

namespace Node

/-- Values come before the type, and a schema with properties and without a type is an object. -/
def shape (n : Node) : Shape :=
  match n.values, n.type with
  | some values, _ => .enumeration values
  | none, some .object => .object n.properties
  | none, some .array => .array n.items
  | none, some .string => .string n.format
  | none, some .integer => .integer
  | none, some .number => .number
  | none, some .boolean => .boolean
  | none, some .null => .null
  | none, none => if n.properties = [] then .unconstrained else .object n.properties

def requires (n : Node) (property : String) : Bool := property ∈ n.required

end Node

end SchemaModel
