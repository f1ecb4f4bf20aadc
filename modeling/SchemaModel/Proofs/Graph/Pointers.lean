import Mathlib
import SchemaModel.Graph.Basic
import SchemaModel.Proofs.Pointer
import SchemaModel.Proofs.Schema.Positions

/-!
# The nodes of a document

The nodes of a graph stand for the places of schemas in its document, one node for each place. The
pointer of a node says which place it is: looked up in the document it leads to the object from which
the node was read. All of this goes by induction on trees; the nodes of a tree stand in the graph one
after the other from some id on, those of its subtrees before its own.

* `Tree.exact`             the nodes of a tree stand for the places in its part of the document;
* `Tree.nodup_pointers`    no two nodes of a tree have one pointer;
* `exists_of_isPosition`   every place has a node;
* `nodes_are_positions`    all of this for the graph of a document.
-/

namespace SchemaModel

/-! ## nodes and their objects -/

/-- the node of an id stands at a pointer -/
def Graph.PointsTo (g : Graph) (id : NodeId) (p : Pointer) : Prop :=
  id < g.size ∧ (g.node id).pointer = p

/-- the schema in a field, and the node under its name -/
def Graph.IsChild (g : Graph) (p : Pointer) (field : String × Json) (child : String × NodeId) :
    Prop :=
  child.1 = field.1 ∧ g.PointsTo child.2 (p ++ [field.1])

/-- The node is read from the fields of an object: its content, and by name and in order the nodes
of the schemas that stand in the object. -/
structure Node.BuiltFrom (g : Graph) (n : Node) (fields : List (String × Json)) : Prop where
  content : Schema.ContentOf n.pointer fields n.toContent
  properties : List.Forall₂ (g.IsChild (n.pointer ++ ["properties"]))
    (Schema.membersAt "properties" fields) n.properties
  items : Option.Rel (fun _ id => g.PointsTo id (n.pointer ++ ["items"]))
    (Schema.itemsAt? fields) n.items
  definitions : List.Forall₂ (g.IsChild (n.pointer ++ ["definitions"]))
    (Schema.membersAt "definitions" fields) n.definitions

/-- The node stands for a place of the document, and it is read from the object there. -/
def Node.Exact (document : Json) (g : Graph) (n : Node) : Prop :=
  IsPosition document n.pointer ∧
    ∃ fields, document.at? n.pointer = some (.object fields) ∧ n.BuiltFrom g fields

namespace Graph

/-- the nodes stand in the graph one after the other, from an id on -/
def Holds (g : Graph) (first : NodeId) (part : List Node) : Prop :=
  part <+: g.nodes.toList.drop first

theorem Holds.append {g : Graph} {first : NodeId} {front behind : List Node}
    (h : g.Holds first (front ++ behind)) :
    g.Holds first front ∧ g.Holds (first + front.length) behind := by
  obtain ⟨rest, hrest⟩ := h
  constructor
  · exact ⟨behind ++ rest, by rw [← List.append_assoc, hrest]⟩
  · refine ⟨rest, ?_⟩
    rw [← List.drop_drop, ← hrest, List.append_assoc, List.drop_left]

theorem Holds.getElem? {g : Graph} {first : NodeId} {front : List Node} {n : Node}
    (h : g.Holds first (front ++ [n])) :
    first + front.length < g.size ∧ g.node (first + front.length) = n := by
  obtain ⟨rest, hrest⟩ := h.append.2
  have hat : g.nodes.toList[first + front.length]? = some n := by
    rw [← Nat.add_zero (first + front.length), ← List.getElem?_drop, ← hrest]
    rfl
  rw [Array.getElem?_toList] at hat
  refine ⟨(Array.getElem?_eq_some_iff.mp hat).1, ?_⟩
  rw [node, hat, Option.getD_some]

end Graph

namespace Schema

/-! ## ids of subtrees -/

section
variable {g : Graph} {first : NodeId} {p : Pointer}

theorem Tree.pointsTo {tree : Tree} (h : g.Holds first (tree.nodes p first)) :
    g.PointsTo (tree.id first) p := by
  cases tree with
  | node content properties items definitions =>
    rw [Tree.nodes] at h
    obtain ⟨hlt, hn⟩ := h.getElem?
    have hid : (Tree.node content properties items definitions).id first =
        first + (memberNodes (p ++ ["properties"]) first properties ++
          itemsNodes (p ++ ["items"]) (first + membersSize properties) items ++
          memberNodes (p ++ ["definitions"]) (first + membersSize properties + itemsSize items)
            definitions).length := by
      rw [Tree.id, Tree.size, List.length_append, List.length_append, length_memberNodes,
        length_itemsNodes, length_memberNodes]
      rfl
    rw [hid]
    exact ⟨hlt, by rw [hn]⟩

theorem isChild_of_holds {fields : List (String × Json)} {members : List (String × Tree)}
    (hr : List.Forall₂ (ReadsAs p) fields members)
    (h : g.Holds first (memberNodes p first members)) :
    List.Forall₂ (g.IsChild p) fields (memberIds first members) := by
  induction hr generalizing first with
  | nil => exact .nil
  | @cons field member fields members hread _ ih =>
    obtain ⟨name, tree⟩ := member
    obtain ⟨hname, -⟩ := hread
    cases hname
    rw [memberNodes] at h
    obtain ⟨htree, hrest⟩ := h.append
    rw [length_nodes] at hrest
    exact .cons ⟨rfl, Tree.pointsTo htree⟩ (ih hrest)

theorem pointsTo_items {found : Option Json} {items : Option Tree}
    (hr : Option.Rel (fun j tree => Tree.read p j = .ok tree) found items)
    (h : g.Holds first (itemsNodes p first items)) :
    Option.Rel (fun _ id => g.PointsTo id p) found (items.map (Tree.id first)) := by
  cases hr with
  | none => exact .none
  | some _ =>
    rw [itemsNodes] at h
    exact .some (Tree.pointsTo h)

end

/-! ## the objects of nodes -/

mutual

/-- The nodes of a tree stand for the places in its part of the document. -/
theorem Tree.exact {document : Json} {g : Graph} (hd : document.Distinct) (tree : Tree)
    {p : Pointer} {j : Json} {first : NodeId} (hr : Tree.read p j = .ok tree)
    (hat : document.at? p = some j) (hpos : IsPosition document p)
    (h : g.Holds first (tree.nodes p first)) : ∀ n ∈ tree.nodes p first, n.Exact document g := by
  cases tree with
  | node content properties items definitions =>
    cases read_ok hr with
    | @node fields _ _ _ _ hc hp hi hdef =>
      rw [Tree.nodes] at h ⊢
      obtain ⟨hchildren, -⟩ := h.append
      obtain ⟨hleft, hright⟩ := hchildren.append
      obtain ⟨hprops, hitems⟩ := hleft.append
      rw [length_memberNodes] at hitems
      rw [List.length_append, length_memberNodes, length_itemsNodes, ← Nat.add_assoc] at hright
      have hproperties : ∀ field ∈ membersAt "properties" fields, _ :=
        fun _ hf => at?_member hd hpos hat (.inl rfl) hf
      have hdefinitions : ∀ field ∈ membersAt "definitions" fields, _ :=
        fun _ hf => at?_member hd hpos hat (.inr rfl) hf
      intro n hn
      simp only [List.mem_append, List.mem_singleton] at hn
      rcases hn with ((hn | hn) | hn) | rfl
      · exact members_exact hd properties hp hproperties hprops n hn
      · exact items_exact hd items hi (fun j hj => at?_items hpos hat hj) hitems n hn
      · exact members_exact hd definitions hdef hdefinitions hright n hn
      · exact ⟨hpos, fields, hat, hc, isChild_of_holds hp hprops, pointsTo_items hi hitems,
          isChild_of_holds hdef hright⟩

theorem members_exact {document : Json} {g : Graph} (hd : document.Distinct)
    (members : List (String × Tree)) {p : Pointer} {fields : List (String × Json)}
    {first : NodeId} (hr : List.Forall₂ (ReadsAs p) fields members)
    (hat : ∀ field ∈ fields, document.at? (p ++ [field.1]) = some field.2 ∧
      IsPosition document (p ++ [field.1]))
    (h : g.Holds first (memberNodes p first members)) :
    ∀ n ∈ memberNodes p first members, n.Exact document g := by
  cases members with
  | nil =>
    intro n hn
    rw [memberNodes] at hn
    cases hn
  | cons member rest =>
    obtain ⟨name, tree⟩ := member
    cases hr with
    | @cons field _ fields _ hread hrest =>
      obtain ⟨hname, hread⟩ := hread
      cases hname
      obtain ⟨hfield, hfields⟩ := List.forall_mem_cons.mp hat
      rw [memberNodes] at h ⊢
      obtain ⟨htree, hothers⟩ := h.append
      rw [length_nodes] at hothers
      intro n hn
      rcases List.mem_append.mp hn with hn | hn
      · exact Tree.exact hd tree hread hfield.1 hfield.2 htree n hn
      · exact members_exact hd rest hrest hfields hothers n hn

theorem items_exact {document : Json} {g : Graph} (hd : document.Distinct) (items : Option Tree)
    {p : Pointer} {found : Option Json} {first : NodeId}
    (hr : Option.Rel (fun j tree => Tree.read p j = .ok tree) found items)
    (hat : ∀ j, found = some j → document.at? p = some j ∧ IsPosition document p)
    (h : g.Holds first (itemsNodes p first items)) :
    ∀ n ∈ itemsNodes p first items, n.Exact document g := by
  cases items with
  | none =>
    intro n hn
    rw [itemsNodes] at hn
    cases hn
  | some tree =>
    cases hr with
    | some hread =>
      obtain ⟨hj, hpos⟩ := hat _ rfl
      rw [itemsNodes] at h ⊢
      exact Tree.exact hd tree hread hj hpos h

end

/-! ## distinct pointers -/

theorem key_of_prefixes {p q : Pointer} {a b : String} (ha : p ++ [a] <+: q)
    (hb : p ++ [b] <+: q) : a = b := by
  obtain ⟨r, hr⟩ := ha
  obtain ⟨s, hs⟩ := hb
  have htails : a :: r = b :: s := by
    rw [← hs, List.append_assoc, List.append_assoc] at hr
    exact List.append_cancel_left hr
  exact (List.cons.inj htails).1

/-- No two of the nodes have one pointer, and all their pointers go on from `p` with a key of the
list. -/
structure Apart (p : Pointer) (keys : List String) (part : List Node) : Prop where
  nodup : (part.map Node.pointer).Nodup
  below : ∀ n ∈ part, ∃ key ∈ keys, p ++ [key] <+: n.pointer

theorem Apart.append {p : Pointer} {keys keys' : List String} {part part' : List Node}
    (h : Apart p keys part) (h' : Apart p keys' part') (hk : ∀ key ∈ keys, key ∉ keys') :
    Apart p (keys ++ keys') (part ++ part') := by
  constructor
  · rw [List.map_append, List.nodup_append]
    refine ⟨h.nodup, h'.nodup, fun q hq q' hq' he => ?_⟩
    obtain ⟨n, hn, rfl⟩ := List.mem_map.mp hq
    obtain ⟨n', hn', rfl⟩ := List.mem_map.mp hq'
    obtain ⟨key, hkey, hbelow⟩ := h.below n hn
    obtain ⟨key', hkey', hbelow'⟩ := h'.below n' hn'
    -- both go on from `p` with the same key
    rw [← he] at hbelow'
    exact hk key hkey (key_of_prefixes hbelow hbelow' ▸ hkey')
  · intro n hn
    rcases List.mem_append.mp hn with hn | hn
    · obtain ⟨key, hkey, hbelow⟩ := h.below n hn
      exact ⟨key, List.mem_append_left _ hkey, hbelow⟩
    · obtain ⟨key, hkey, hbelow⟩ := h'.below n hn
      exact ⟨key, List.mem_append_right _ hkey, hbelow⟩

theorem Apart.of_below {p : Pointer} {key : String} {part : List Node}
    (hn : (part.map Node.pointer).Nodup) (hb : ∀ n ∈ part, p ++ [key] <+: n.pointer) :
    Apart p [key] part :=
  ⟨hn, fun n h => ⟨key, List.mem_singleton_self key, hb n h⟩⟩

theorem Apart.up {p : Pointer} {key : String} {keys : List String} {part : List Node}
    (h : Apart (p ++ [key]) keys part) : Apart p [key] part := by
  refine .of_below h.nodup fun n hn => ?_
  obtain ⟨next, -, hbelow⟩ := h.below n hn
  exact (List.prefix_append _ _).trans hbelow

mutual

/-- No two nodes of a tree have one pointer, and all pointers go on from that of the tree. -/
theorem Tree.nodup_pointers (tree : Tree) (first : NodeId) {p : Pointer} {j : Json}
    (hd : j.Distinct) (hr : Tree.read p j = .ok tree) :
    ((tree.nodes p first).map Node.pointer).Nodup ∧
      ∀ n ∈ tree.nodes p first, p <+: n.pointer := by
  cases tree with
  | node content properties items definitions =>
    cases read_ok hr with
    | @node fields _ _ _ _ _ hp hi hdef =>
      have hgroup : ∀ key, ((membersAt key fields).map Prod.fst).Nodup ∧
          ∀ field ∈ membersAt key fields, field.2.Distinct := distinct_membersAt hd
      have hproperties := (members_apart properties first (hgroup _).1 (hgroup _).2 hp).up
      have hitems := items_apart items (first + membersSize properties) (distinct_itemsAt? hd) hi
      have hdefinitions := (members_apart definitions
        (first + membersSize properties + itemsSize items) (hgroup _).1 (hgroup _).2 hdef).up
      have hchildren := (hproperties.append hitems (by decide)).append hdefinitions (by decide)
      rw [Tree.nodes]
      constructor
      · rw [List.map_append, List.nodup_append]
        refine ⟨hchildren.nodup, List.nodup_singleton _, fun q hq q' hq' he => ?_⟩
        obtain ⟨n, hn, rfl⟩ := List.mem_map.mp hq
        obtain ⟨key, -, hbelow⟩ := hchildren.below n hn
        -- the pointer of a child is longer than that of the tree
        have hroot : q' = p := List.mem_singleton.mp hq'
        rw [he, hroot] at hbelow
        have hlength := hbelow.length_le
        rw [List.length_append, List.length_singleton] at hlength
        omega
      · intro n hn
        rcases List.mem_append.mp hn with hn | hn
        · obtain ⟨key, -, hbelow⟩ := hchildren.below n hn
          exact (List.prefix_append _ _).trans hbelow
        · rw [List.mem_singleton.mp hn]

theorem members_apart (members : List (String × Tree)) (first : NodeId) {p : Pointer}
    {fields : List (String × Json)} (hk : (fields.map Prod.fst).Nodup)
    (hd : ∀ field ∈ fields, field.2.Distinct)
    (hr : List.Forall₂ (ReadsAs p) fields members) :
    Apart p (fields.map Prod.fst) (memberNodes p first members) := by
  cases members with
  | nil =>
    rw [memberNodes]
    exact ⟨List.nodup_nil, fun n hn => absurd hn List.not_mem_nil⟩
  | cons member rest =>
    obtain ⟨name, tree⟩ := member
    cases hr with
    | @cons field _ fields _ hread hrest =>
      obtain ⟨hname, hread⟩ := hread
      cases hname
      obtain ⟨hnew, hnames⟩ := List.nodup_cons.mp hk
      obtain ⟨hfield, hfields⟩ := List.forall_mem_cons.mp hd
      obtain ⟨hnodup, hbelow⟩ := Tree.nodup_pointers tree first hfield hread
      have hothers := members_apart rest (first + tree.size) hnames hfields hrest
      rw [memberNodes]
      refine Apart.append (.of_below hnodup hbelow) hothers fun key hkey => ?_
      rw [List.mem_singleton.mp hkey]
      exact hnew

theorem items_apart (items : Option Tree) (first : NodeId) {p : Pointer} {found : Option Json}
    (hd : ∀ j, found = some j → j.Distinct)
    (hr : Option.Rel (fun j tree => Tree.read (p ++ ["items"]) j = .ok tree) found items) :
    Apart p ["items"] (itemsNodes (p ++ ["items"]) first items) := by
  cases items with
  | none =>
    rw [itemsNodes]
    exact ⟨List.nodup_nil, fun n hn => absurd hn List.not_mem_nil⟩
  | some tree =>
    cases hr with
    | some hread =>
      obtain ⟨hnodup, hbelow⟩ := Tree.nodup_pointers tree first (hd _ rfl) hread
      rw [itemsNodes]
      exact .of_below hnodup hbelow

end

end Schema

/-! ## the graph of a document -/

namespace Graph

variable {document : Json} {g : Graph}

/-- Every place of the document has a node, if the root has one and all nodes are exact. -/
theorem exists_of_isPosition (hroot : ∃ id, g.PointsTo id [])
    (hex : ∀ id < g.size, (g.node id).Exact document g) {p : Pointer}
    (h : IsPosition document p) : ∃ id, g.PointsTo id p := by
  induction h with
  | root => exact hroot
  | @member p fields key members name j _ hp hk hm hj ih =>
    obtain ⟨id, hid, rfl⟩ := ih
    obtain ⟨-, fields', hp', hbuilt⟩ := hex id hid
    rw [hp] at hp'
    cases hp'
    have hfield : (name, j) ∈ Schema.membersAt key fields := by
      rw [Schema.membersAt, hm]
      exact hj
    have hchildren : ∃ children, List.Forall₂ (g.IsChild ((g.node id).pointer ++ [key]))
        (Schema.membersAt key fields) children := by
      rcases hk with rfl | rfl
      · exact ⟨_, hbuilt.properties⟩
      · exact ⟨_, hbuilt.definitions⟩
    obtain ⟨children, hchildren⟩ := hchildren
    obtain ⟨child, -, -, hchild⟩ := mem_of_forall₂ hchildren.flip (name, j) hfield
    rw [List.append_assoc] at hchild
    exact ⟨child.2, hchild⟩
  | @items p fields j _ hp hj hn ih =>
    obtain ⟨id, hid, rfl⟩ := ih
    obtain ⟨-, fields', hp', hbuilt⟩ := hex id hid
    rw [hp] at hp'
    cases hp'
    have hitems := hbuilt.items
    rw [Schema.itemsAt?_eq_some_iff.mpr ⟨hj, hn⟩] at hitems
    cases h : (g.node id).items with
    | none =>
      rw [h] at hitems
      cases hitems
    | some child =>
      rw [h] at hitems
      cases hitems with
      | some hchild => exact ⟨child, hchild⟩

/-- The nodes of a document are those of the tree that it is read as. -/
theorem ofJson_ok (h : ofJson document = .ok g) :
    ∃ tree, Schema.Tree.read [] document = .ok tree ∧ g = ofTree tree := by
  rw [ofJson] at h
  cases ht : Schema.Tree.read [] document with
  | error e =>
    rw [ht] at h
    cases h
  | ok tree =>
    rw [ht] at h
    cases h
    exact ⟨tree, rfl, rfl⟩

theorem holds_ofTree (tree : Schema.Tree) : (ofTree tree).Holds 0 (tree.nodes [] 0) := by
  rw [Holds, ofTree, List.drop_zero]

theorem getElem?_node {id : NodeId} (hid : id < g.size) : g.nodes[id]? = some (g.node id) := by
  rw [node, Array.getElem?_eq_getElem hid, Option.getD_some]

theorem node_of_size_le {id : NodeId} (hid : g.size ≤ id) : g.node id = {} := by
  rw [node, Array.getElem?_eq_none hid, Option.getD_none]

theorem mem_nodes {n : Node} : n ∈ g.nodes.toList ↔ ∃ id < g.size, g.node id = n := by
  rw [List.mem_iff_getElem?]
  simp only [Array.getElem?_toList]
  constructor
  · rintro ⟨id, hat⟩
    have hid : id < g.size := (Array.getElem?_eq_some_iff.mp hat).1
    rw [getElem?_node hid] at hat
    exact ⟨id, hid, Option.some.inj hat⟩
  · rintro ⟨id, hid, rfl⟩
    exact ⟨id, getElem?_node hid⟩

theorem exact_of_ofJson (hd : document.Distinct) (h : ofJson document = .ok g) :
    ∀ id < g.size, (g.node id).Exact document g := by
  intro id hid
  obtain ⟨tree, hr, rfl⟩ := ofJson_ok h
  exact Schema.Tree.exact hd tree hr rfl .root (holds_ofTree tree) _ (mem_nodes.mpr ⟨id, hid, rfl⟩)

/-- Different nodes have different pointers. -/
theorem id_of_pointer (hd : document.Distinct) (h : ofJson document = .ok g) {id id' : NodeId}
    (hid : id < g.size) (hid' : id' < g.size)
    (he : (g.node id).pointer = (g.node id').pointer) : id = id' := by
  obtain ⟨tree, hr, rfl⟩ := ofJson_ok h
  obtain ⟨hnodup, -⟩ := Schema.Tree.nodup_pointers tree 0 hd hr
  have hat : ∀ (i : NodeId) (hi : i < ((tree.nodes [] 0).map Node.pointer).length),
      ((tree.nodes [] 0).map Node.pointer)[i] = ((ofTree tree).node i).pointer := by
    intro i hi
    rw [List.length_map] at hi
    rw [List.getElem_map, node, ofTree, List.getElem?_toArray, List.getElem?_eq_getElem hi,
      Option.getD_some]
  have hlength : ((tree.nodes [] 0).map Node.pointer).length = (ofTree tree).size := by
    rw [List.length_map, ofTree, size, List.size_toArray]
  rw [← hlength] at hid hid'
  rw [← hat id hid, ← hat id' hid', hnodup.getElem_inj_iff] at he
  exact he

/-- The nodes of a document are its places, each under its own pointer: the text of the pointer
leads to the object from which the node was read, and there are as many nodes as places. What is
read from a text has distinct keys, by `Json.distinct_of_read`. -/
theorem nodes_are_positions (hd : document.Distinct) (h : ofJson document = .ok g) :
    (∀ id < g.size, ∃ fields,
      (Pointer.ofText? (g.node id).pointer.text).bind document.at? = some (.object fields) ∧
        (g.node id).BuiltFrom g fields) ∧
    (∀ id < g.size, ∀ id' < g.size,
      (g.node id).pointer.text = (g.node id').pointer.text → id = id') ∧
    (∀ p, IsPosition document p ↔ ∃ id, g.PointsTo id p) ∧
    {p | IsPosition document p}.ncard = g.size := by
  have hexact := exact_of_ofJson hd h
  have hinj : Set.InjOn (fun id => (g.node id).pointer) (Set.Iio g.size) :=
    fun id hid id' hid' he => id_of_pointer hd h hid hid' he
  have hroot : ∃ id, g.PointsTo id [] := by
    obtain ⟨tree, -, rfl⟩ := ofJson_ok h
    exact ⟨_, Schema.Tree.pointsTo (holds_ofTree tree)⟩
  have hplaces : ∀ p, IsPosition document p ↔ ∃ id, g.PointsTo id p := by
    refine fun p => ⟨exists_of_isPosition hroot hexact, ?_⟩
    rintro ⟨id, hid, rfl⟩
    exact (hexact id hid).1
  refine ⟨fun id hid => ?_, fun id hid id' hid' he => ?_, hplaces, ?_⟩
  · obtain ⟨-, fields, hat, hbuilt⟩ := hexact id hid
    refine ⟨fields, ?_, hbuilt⟩
    rw [Pointer.ofText?_text, Option.bind_some, hat]
  · exact hinj hid hid' (Pointer.text_inj.mp he)
  · have himage : {p | IsPosition document p} =
        (fun id => (g.node id).pointer) '' Set.Iio g.size := by
      ext p
      exact hplaces p
    rw [himage, hinj.ncard_image, ← Finset.coe_range, Set.ncard_coe_finset, Finset.card_range]

def oddText : String :=
  "\x7b\"properties\": \x7b\"\": \x7b\"items\": \x7b\x7d\x7d, \"a/b~c\": \x7b\x7d, " ++
  "\"items\": \x7b\"items\": null\x7d\x7d, " ++
  "\"definitions\": \x7b\"properties\": \x7b\"properties\": \x7b\x7d\x7d\x7d\x7d"

/-- Keys that are empty, that hold the marks of a pointer, or that are spelled like a keyword. -/
def oddKeys : Json :=
  .object [
    ("properties", .object [
      ("", .object [("items", .object [])]),
      ("a/b~c", .object []),
      ("items", .object [("items", .null)])]),
    ("definitions", .object [("properties", .object [("properties", .object [])])])]

/-- The keys of a pointer stay apart whatever they hold. -/
theorem nodes_of_oddKeys : Json.read oddText = .ok oddKeys ∧
    ∃ g, ofJson oddKeys = .ok g ∧
      g.nodes.toList.map (·.pointer.text) = ["/properties//items", "/properties/",
        "/properties/a~1b~0c", "/properties/items", "/definitions/properties", ""] ∧
      (∀ id < g.size, ∃ fields,
        (Pointer.ofText? (g.node id).pointer.text).bind oddKeys.at? = some (.object fields) ∧
          (g.node id).BuiltFrom g fields) ∧
      {p | IsPosition oddKeys p}.ncard = 6 := by
  have hread : Json.read oddText = .ok oddKeys := by
    unfold Json.read oddText
    simp only [String.toList_append]
    repeat rw [String.toList_ofList]
    rfl
  obtain ⟨g, hg⟩ : ∃ g, ofJson oddKeys = .ok g := ⟨_, rfl⟩
  have hpointers : g.nodes.toList.map (·.pointer.text) = ["/properties//items", "/properties/",
      "/properties/a~1b~0c", "/properties/items", "/definitions/properties", ""] := by
    cases hg
    decide
  have hsize : g.size = 6 := by
    cases hg
    rfl
  obtain ⟨hbuilt, -, -, hcount⟩ := nodes_are_positions (Json.distinct_of_read hread) hg
  exact ⟨hread, g, hg, hpointers, hbuilt, hcount.trans hsize⟩

end Graph

end SchemaModel
