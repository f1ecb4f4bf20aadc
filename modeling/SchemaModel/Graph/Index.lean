import SchemaModel.Graph.Basic

/-!
# The index of a document

While a document is read, its schemas are entered under the fragments by which references may
address them: the root under `#`, and every definition that is reached through definitions alone
under a fragment that goes on from that of the schema around it. A fragment is entered only once. A
graph finds the same nodes by their pointers.
-/

namespace SchemaModel

/-- a schema that references may address -/
structure Index.Entry where
  fragment : String
  id : NodeId
  /-- the name of a definition -/
  name? : Option String
  deriving DecidableEq, Repr

namespace Schema

mutual

/-- The entries of the definitions in a tree, and of the tree itself if it is the root. The fragment
is the one that addresses the tree; below a tree that none addresses, nothing is entered. -/
def Tree.entries (fragment? : Option String) (first : NodeId) : Tree → List Index.Entry
  | .node _ properties items definitions =>
    let second := first + membersSize properties
    let third := second + itemsSize items
    memberEntries none first properties ++
      itemsEntries second items ++
      memberEntries fragment? third definitions ++
      if fragment? = some "#" then [⟨"#", third + membersSize definitions, none⟩] else []

/-- The entries of the schemas in a group, each behind those of the definitions in it. -/
def memberEntries (fragment? : Option String) (first : NodeId) :
    List (String × Tree) → List Index.Entry
  | [] => []
  | (name, tree) :: rest =>
    let member? := fragment?.map fun f => Pointer.push (Pointer.push f "definitions") name
    tree.entries member? first ++
      (member?.map fun f => ⟨f, tree.id first, some name⟩).toList ++
      memberEntries fragment? (first + tree.size) rest

def itemsEntries (first : NodeId) : Option Tree → List Index.Entry
  | none => []
  | some tree => tree.entries none first

end

end Schema

/-- the schemas that references may address -/
structure Index where
  /-- the node of every fragment -/
  fragments : List (String × NodeId) := []
  /-- the name of every definition -/
  names : List (NodeId × String) := []
  deriving Repr

namespace Index

/-- a fragment that would be entered twice -/
structure Repeated where
  fragment : String
  deriving DecidableEq, Repr

def Repeated.message (r : Repeated) : String := "duplicate definition '" ++ r.fragment ++ "'"

def enter (index : Index) (entry : Entry) : Except Repeated Index :=
  if entry.fragment ∈ index.fragments.map Prod.fst then .error ⟨entry.fragment⟩
  else .ok {
    fragments := index.fragments ++ [(entry.fragment, entry.id)]
    names := index.names ++ entry.name?.toList.map fun name => (entry.id, name) }

/-- the index of a document that is read as a tree -/
def ofTree (tree : Schema.Tree) : Except Repeated Index :=
  (tree.entries (some "#") 0).foldlM enter {}

end Index

end SchemaModel
