import SchemaModel.Graph.Node
import SchemaModel.Json.Reader

/-!
# The graph of a schema document

The nodes of a document are listed so that every schema stands behind the schemas nested in it:
those of its properties, of its items and of its definitions, in this order. The root is the last.

* `length_nodes`   a document has as many nodes as schemas.
-/

namespace SchemaModel

namespace Schema

mutual

/-- the number of schemas in a tree -/
def Tree.size : Tree → Nat
  | .node _ properties items definitions =>
    membersSize properties + itemsSize items + membersSize definitions + 1

def membersSize : List (String × Tree) → Nat
  | [] => 0
  | (_, tree) :: rest => tree.size + membersSize rest

def itemsSize : Option Tree → Nat
  | none => 0
  | some tree => tree.size

end

/-- the id of a tree whose nodes are numbered from `first` on -/
def Tree.id (first : NodeId) (tree : Tree) : NodeId := first + tree.size - 1

def memberIds (first : NodeId) : List (String × Tree) → List (String × NodeId)
  | [] => []
  | (name, tree) :: rest => (name, tree.id first) :: memberIds (first + tree.size) rest

mutual

/-- the nodes of the tree at a pointer, numbered from `first` on -/
def Tree.nodes (p : Pointer) (first : NodeId) : Tree → List Node
  | .node content properties items definitions =>
    let second := first + membersSize properties
    let third := second + itemsSize items
    memberNodes (p ++ ["properties"]) first properties ++
      itemsNodes (p ++ ["items"]) second items ++
      memberNodes (p ++ ["definitions"]) third definitions ++
      [{ content with
          pointer := p
          properties := memberIds first properties
          items := items.map (Tree.id second)
          definitions := memberIds third definitions }]

def memberNodes (p : Pointer) (first : NodeId) : List (String × Tree) → List Node
  | [] => []
  | (name, tree) :: rest =>
    tree.nodes (p ++ [name]) first ++ memberNodes p (first + tree.size) rest

def itemsNodes (p : Pointer) (first : NodeId) : Option Tree → List Node
  | none => []
  | some tree => tree.nodes p first

end

mutual

theorem length_nodes (p : Pointer) (first : NodeId) (tree : Tree) :
    (tree.nodes p first).length = tree.size := by
  cases tree with
  | node content properties items definitions =>
    simp [Tree.nodes, Tree.size, length_memberNodes, length_itemsNodes, Nat.add_assoc]

theorem length_memberNodes (p : Pointer) (first : NodeId) (members : List (String × Tree)) :
    (memberNodes p first members).length = membersSize members := by
  match members with
  | [] => rfl
  | (name, tree) :: rest =>
    simp [memberNodes, membersSize, length_nodes, length_memberNodes p _ rest]

theorem length_itemsNodes (p : Pointer) (first : NodeId) (items : Option Tree) :
    (itemsNodes p first items).length = itemsSize items := by
  match items with
  | none => rfl
  | some tree => simp [itemsNodes, itemsSize, length_nodes]

end

end Schema

structure Graph where
  nodes : Array Node

namespace Graph

def size (g : Graph) : Nat := g.nodes.size

def root (g : Graph) : NodeId := g.size - 1

/-- The node of an id; outside the graph, a schema that says nothing. -/
def node (g : Graph) (id : NodeId) : Node := g.nodes[id]?.getD {}

def ofTree (tree : Schema.Tree) : Graph := ⟨(tree.nodes [] 0).toArray⟩

theorem size_ofTree (tree : Schema.Tree) : (ofTree tree).size = tree.size := by
  simp [size, ofTree, Schema.length_nodes]

/-- the graph of a document -/
def ofJson (j : Json) : Except Error Graph := ofTree <$> Schema.Tree.read [] j

/-- the document in a text -/
def parse (text : String) : Except Error Json :=
  (Json.read text).mapError .malformedSchema

/-- the graph of the document in a text -/
def read (text : String) : Except Error Graph := parse text >>= ofJson

/-- the fragments that address a node, ascending -/
def fragments (g : Graph) : List String :=
  Text.sortedSet ((g.nodes.toList.filter (·.pointer.isAddressable)).map (·.pointer.fragment))

end Graph

end SchemaModel
