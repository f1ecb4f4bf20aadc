import SchemaModel.Schema.Content

/-!
# Schemas as trees

A schema holds the schemas of its properties, of its items and of its definitions. Reading visits
them in this order, and a schema's own type and values last, so that of several faults the one
found first in this order is reported.
-/

namespace SchemaModel.Schema

inductive Tree where
  | node (content : Content) (properties : List (String × Tree)) (items : Option Tree)
    (definitions : List (String × Tree))
  deriving Repr

mutual

/-- the schema at a pointer -/
def Tree.read (p : Pointer) : Json → Except Error Tree
  | .object fields => do
    checkTypes p fields
    let reference ← readReference fields
    let properties ← readGroup "properties" p fields
    let items ← readItems p fields
    let definitions ← readGroup "definitions" p fields
    let type ← readType p fields
    let values ← readValues p fields
    return .node (content fields reference type values) properties items definitions
  | _ => .error (.invalidSchema p.text .notObject)

/-- the schemas under a key, by name -/
def readGroup (key : String) (p : Pointer) :
    List (String × Json) → Except Error (List (String × Tree))
  | [] => .ok []
  | (k, .object members) :: rest =>
    if k = key then readMembers (p ++ [key]) members else readGroup key p rest
  | (k, _) :: rest => if k = key then .ok [] else readGroup key p rest

def readMembers (p : Pointer) : List (String × Json) → Except Error (List (String × Tree))
  | [] => .ok []
  | (name, j) :: rest => do
    let tree ← Tree.read (p ++ [name]) j
    let others ← readMembers p rest
    return (name, tree) :: others

/-- the schema of all items -/
def readItems (p : Pointer) : List (String × Json) → Except Error (Option Tree)
  | [] => .ok none
  | (k, .null) :: rest => if k = "items" then .ok none else readItems p rest
  | (k, .array _) :: rest =>
    if k = "items" then .error (.invalidSchema p.text .itemsPerPosition) else readItems p rest
  | (k, j) :: rest =>
    if k = "items" then some <$> Tree.read (p ++ ["items"]) j else readItems p rest

end

end SchemaModel.Schema
