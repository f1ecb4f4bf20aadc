import SchemaModel.Graph.Resolve
import SchemaModel.Proofs.Graph.References

/-!
# How the nodes of a document are numbered

The nodes of a tree are numbered without a gap, from the innermost to the tree itself. So the ids
that are stored in them, each behind its keyword, are those of all nodes but the last, each stored
once and in a node with a higher id. Every id that a graph gives out is then one of its nodes.

* `Tree.perm_children`   the ids stored in the nodes of a tree;
* `Tree.ordered`         a node is numbered after its children;
* `existsUnique_place`   every node but the root is stored at exactly one place;
* `numbered_of_ofJson`   all of this for the graph of a document;
* `lt_size_of_index`     an id in its index is that of a node;
* `lt_size_of_follow`    so is the end of a chain of references.
-/

namespace SchemaModel

/-- the ids of the schemas in a node: of its properties, of its items and of its definitions -/
def Node.children (n : Node) : List NodeId :=
  n.properties.map Prod.snd ++ n.items.toList ++ n.definitions.map Prod.snd

namespace Schema

/-! ## ids of subtrees -/

theorem Tree.id_eq (tree : Tree) (first : NodeId) : tree.id first = first + (tree.size - 1) := by
  cases tree with
  | node content properties items definitions => exact Nat.add_sub_assoc (Nat.le_add_left 1 _) _

theorem Tree.size_pos (tree : Tree) : 0 < tree.size := by
  cases tree with
  | node content properties items definitions => exact Nat.succ_pos _

/-- The numbers of a tree are those of the nodes in it, and its own. -/
theorem Tree.range'_size (tree : Tree) (first : NodeId) :
    List.range' first tree.size = List.range' first (tree.size - 1) ++ [tree.id first] := by
  rw [tree.id_eq, ← List.range'_1_concat, Nat.sub_add_cancel tree.size_pos]

mutual

/-- The ids stored in the nodes of a tree are those of all its nodes but the tree itself. -/
theorem Tree.perm_children (tree : Tree) (p : Pointer) (first : NodeId) :
    ((tree.nodes p first).flatMap Node.children).Perm (List.range' first (tree.size - 1)) := by
  cases tree with
  | node content properties items definitions =>
    have hproperties := perm_memberIds properties (p ++ ["properties"]) first
    have hitems := perm_itemsIds items (p ++ ["items"]) (first + membersSize properties)
    have hdefinitions := perm_memberIds definitions (p ++ ["definitions"])
      (first + membersSize properties + itemsSize items)
    have hrange : List.range' first ((Tree.node content properties items definitions).size - 1) =
        List.range' first (membersSize properties) ++
          List.range' (first + membersSize properties) (itemsSize items) ++
          List.range' (first + membersSize properties + itemsSize items)
            (membersSize definitions) := by
      rw [List.range'_append_1, Nat.add_assoc, List.range'_append_1]
      rfl
    rw [hrange, Tree.nodes]
    refine List.Perm.trans ?_ ((hproperties.append hitems).append hdefinitions)
    -- the ids that the tree itself stores stand behind those of the nodes below each keyword
    simp only [List.flatMap_append, List.flatMap_singleton, Node.children, Option.toList_map]
    grind

theorem perm_memberIds (members : List (String × Tree)) (p : Pointer) (first : NodeId) :
    ((memberNodes p first members).flatMap Node.children ++
      (memberIds first members).map Prod.snd).Perm (List.range' first (membersSize members)) := by
  match members with
  | [] => rfl
  | (name, tree) :: rest =>
    have htree := (tree.perm_children (p ++ [name]) first).append_right [tree.id first]
    rw [← tree.range'_size] at htree
    have hrest := perm_memberIds rest p (first + tree.size)
    rw [memberNodes, memberIds, membersSize, ← List.range'_append_1]
    refine List.Perm.trans ?_ (htree.append hrest)
    simp only [List.flatMap_append, List.map_cons]
    grind

theorem perm_itemsIds (items : Option Tree) (p : Pointer) (first : NodeId) :
    ((itemsNodes p first items).flatMap Node.children ++
      (items.map (Tree.id first)).toList).Perm (List.range' first (itemsSize items)) := by
  match items with
  | none => rfl
  | some tree =>
    rw [itemsNodes, itemsSize, tree.range'_size]
    exact (tree.perm_children p first).append_right _

end

/-! ## children before their parents -/

theorem lt_of_mem_memberIds {members : List (String × Tree)} {first : NodeId} {id : NodeId}
    (h : id ∈ (memberIds first members).map Prod.snd) : id < first + membersSize members :=
  (List.mem_range'_1.mp ((perm_memberIds members [] first).subset (List.mem_append_right _ h))).2

theorem lt_of_mem_itemsIds {items : Option Tree} {first : NodeId} {id : NodeId}
    (h : id ∈ (items.map (Tree.id first)).toList) : id < first + itemsSize items :=
  (List.mem_range'_1.mp ((perm_itemsIds items [] first).subset (List.mem_append_right _ h))).2

/-- The nodes are numbered after their children, if they are numbered from `first` on. -/
def Ordered (first : NodeId) (part : List Node) : Prop :=
  ∀ entry ∈ part.zipIdx first, ∀ child ∈ entry.1.children, child < entry.2

theorem Ordered.nil {first : NodeId} : Ordered first [] :=
  fun _ he => absurd he List.not_mem_nil

theorem Ordered.append {first : NodeId} {front behind : List Node} {size : Nat}
    (hs : front.length = size) (h : Ordered first front) (h' : Ordered (first + size) behind) :
    Ordered first (front ++ behind) := by
  intro entry he
  rw [List.zipIdx_append, hs] at he
  exact (List.mem_append.mp he).elim (h entry) (h' entry)

mutual

theorem Tree.ordered (tree : Tree) (p : Pointer) (first : NodeId) :
    Ordered first (tree.nodes p first) := by
  cases tree with
  | node content properties items definitions =>
    have hproperties := members_ordered properties (p ++ ["properties"]) first
    have hitems := items_ordered items (p ++ ["items"]) (first + membersSize properties)
    have hdefinitions := members_ordered definitions (p ++ ["definitions"])
      (first + membersSize properties + itemsSize items)
    rw [Tree.nodes]
    refine .append rfl (.append rfl (hproperties.append (length_memberNodes ..) hitems) ?_) ?_
    · rwa [List.length_append, length_memberNodes, length_itemsNodes, ← Nat.add_assoc]
    · -- the tree itself, with the ids of the trees in it
      simp only [List.length_append, length_memberNodes, length_itemsNodes, ← Nat.add_assoc]
      rintro ⟨n, id⟩ he child hc
      rw [List.zipIdx_singleton] at he
      obtain ⟨rfl, rfl⟩ := Prod.mk.inj (List.mem_singleton.mp he)
      simp only [Node.children, List.mem_append] at hc
      rcases hc with (hc | hc) | hc
      · exact Nat.lt_add_right _ (Nat.lt_add_right _ (lt_of_mem_memberIds hc))
      · exact Nat.lt_add_right _ (lt_of_mem_itemsIds hc)
      · exact lt_of_mem_memberIds hc

theorem members_ordered (members : List (String × Tree)) (p : Pointer) (first : NodeId) :
    Ordered first (memberNodes p first members) := by
  match members with
  | [] =>
    rw [memberNodes]
    exact .nil
  | (name, tree) :: rest =>
    rw [memberNodes]
    exact (tree.ordered _ first).append (length_nodes ..) (members_ordered rest p _)

theorem items_ordered (items : Option Tree) (p : Pointer) (first : NodeId) :
    Ordered first (itemsNodes p first items) := by
  match items with
  | none =>
    rw [itemsNodes]
    exact .nil
  | some tree =>
    rw [itemsNodes]
    exact tree.ordered p first

end

end Schema

namespace Graph

/-! ## places of ids -/

/-- An entry of one of many lists that have none in common stands at one place in one of them. -/
theorem existsUnique_of_nodup_flatMap {l : List α} {f : α → List β} (h : (l.flatMap f).Nodup)
    {b : β} (hb : b ∈ l.flatMap f) :
    ∃! place : Nat × Nat, (l[place.1]?.bind fun a => (f a)[place.2]?) = some b := by
  obtain ⟨hinner, houter⟩ := List.nodup_flatMap.mp h
  obtain ⟨a, ha, hb⟩ := List.mem_flatMap.mp hb
  obtain ⟨i, hi⟩ := List.mem_iff_getElem?.mp ha
  obtain ⟨k, hk⟩ := List.mem_iff_getElem?.mp hb
  refine ⟨(i, k), Option.bind_eq_some_iff.mpr ⟨a, hi, hk⟩, ?_⟩
  rintro ⟨i', k'⟩ hplace
  obtain ⟨a', hi', hk'⟩ := Option.bind_eq_some_iff.mp hplace
  obtain ⟨hlt, rfl⟩ := List.getElem?_eq_some_iff.mp hi
  obtain ⟨hlt', rfl⟩ := List.getElem?_eq_some_iff.mp hi'
  -- in two lists it would be a common entry
  have hsame : i' = i := by
    by_contra hne
    have hdisjoint := List.pairwise_iff_get.mp houter
    rcases Nat.lt_or_gt_of_ne hne with hless | hless
    · exact hdisjoint ⟨i', hlt'⟩ ⟨i, hlt⟩ hless (List.mem_of_getElem? hk') (List.mem_of_getElem? hk)
    · exact hdisjoint ⟨i, hlt⟩ ⟨i', hlt'⟩ hless (List.mem_of_getElem? hk) (List.mem_of_getElem? hk')
  subst hsame
  rw [(List.getElem?_inj (List.getElem?_eq_some_iff.mp hk).1 (hinner _ ha)).mp (hk.trans hk'.symm)]

/-- Outside of the graph nothing is stored. -/
theorem lt_size_of_mem_children {g : Graph} {id child : NodeId}
    (hc : child ∈ (g.node id).children) : id < g.size := by
  by_contra hout
  rw [node_of_size_le (Nat.le_of_not_lt hout)] at hc
  exact absurd hc List.not_mem_nil

section
variable {document : Json} {g : Graph}

/-- The ids stored in the nodes of a document are those of all nodes but the root. -/
theorem perm_children (h : ofJson document = .ok g) :
    (g.nodes.toList.flatMap Node.children).Perm (List.range (g.size - 1)) := by
  obtain ⟨tree, -, rfl⟩ := ofJson_ok h
  rw [size_ofTree, List.range_eq_range']
  exact tree.perm_children [] 0

theorem children_lt (h : ofJson document = .ok g) {id child : NodeId}
    (hc : child ∈ (g.node id).children) : child < id := by
  have hentry : (g.node id, id) ∈ g.nodes.toList.zipIdx := by
    rw [List.mk_mem_zipIdx_iff_getElem?, Array.getElem?_toList]
    exact getElem?_node (lt_size_of_mem_children hc)
  obtain ⟨tree, -, rfl⟩ := ofJson_ok h
  exact tree.ordered [] 0 _ hentry child hc

/-- Every node but the root is stored at one place: in one node, under one of its keywords. -/
theorem existsUnique_place (h : ofJson document = .ok g) {id : NodeId} (hid : id < g.size)
    (hr : id ≠ g.root) :
    ∃! place : NodeId × Nat, (g.node place.1).children[place.2]? = some id := by
  have hperm := perm_children h
  have hbelow : id < g.size - 1 := Nat.lt_of_le_of_ne (Nat.le_sub_one_of_lt hid) hr
  have hplace := existsUnique_of_nodup_flatMap (hperm.nodup_iff.mpr List.nodup_range)
    (hperm.mem_iff.mpr (List.mem_range.mpr hbelow))
  -- a place in the list of nodes is one in the graph
  refine (existsUnique_congr fun ⟨parent, k⟩ => ?_).mp hplace
  constructor
  · intro hp
    obtain ⟨n, hn, hk⟩ := Option.bind_eq_some_iff.mp hp
    rw [Array.getElem?_toList] at hn
    rw [node, hn]
    exact hk
  · intro hp
    refine Option.bind_eq_some_iff.mpr ⟨_, ?_, hp⟩
    rw [Array.getElem?_toList]
    exact getElem?_node (lt_size_of_mem_children (List.mem_of_getElem? hp))

/-- The nodes are numbered without a gap, each after its children, up to the root, and each node but
the root is stored at one place. -/
structure Numbered (g : Graph) : Prop where
  root : g.root + 1 = g.size
  root_pointer : (g.node g.root).pointer = []
  pointers : (g.nodes.map Node.pointer).size = g.size
  children_lt : ∀ id, ∀ child ∈ (g.node id).children, child < id
  place : ∀ id < g.size, id ≠ g.root →
    ∃! place : NodeId × Nat, (g.node place.1).children[place.2]? = some id
  root_place : ∀ id, g.root ∉ (g.node id).children

theorem numbered_of_ofJson (h : ofJson document = .ok g) : g.Numbered where
  root := Nat.sub_add_cancel (Nat.zero_lt_of_lt (pointsTo_root h).1)
  root_pointer := (pointsTo_root h).2
  pointers := Array.size_map
  children_lt _ _ := children_lt h
  place _ := existsUnique_place h
  root_place _ hc := Nat.not_lt_of_le (Nat.le_sub_one_of_lt (lt_size_of_mem_children hc))
    (children_lt h hc)

/-- Every id that a graph holds is that of one of its nodes. -/
structure Closed (g : Graph) : Prop where
  root : g.root < g.size
  children : ∀ id, ∀ child ∈ (g.node id).children, child < g.size

theorem closed_of_ofJson (h : ofJson document = .ok g) : g.Closed where
  root := (pointsTo_root h).1
  children _ _ hc := (children_lt h hc).trans (lt_size_of_mem_children hc)

/-- The ids in the index are those of nodes. -/
theorem lt_size_of_index (h : ofJson document = .ok g) {tree : Schema.Tree} {index : Index}
    (ht : Schema.Tree.read [] document = .ok tree) (hi : Index.ofTree tree = .ok index) :
    (∀ entry ∈ index.fragments, entry.2 < g.size) ∧ ∀ entry ∈ index.names, entry.1 < g.size := by
  obtain ⟨tree', ht', rfl⟩ := ofJson_ok h
  cases ht.symm.trans ht'
  rw [Index.ofTree_ok hi]
  exact ⟨fun _ he => (mem_index_fragments.mp he).1, fun _ he => (mem_index_names.mp he).1⟩

end

/-! ## ids that a graph gives out -/

section
variable {g : Graph} {id target : NodeId}

theorem lt_size_of_resolve {r : Reference} (h : g.resolve r = .ok id) : id < g.size := by
  unfold resolve at h
  split at h
  · cases h
  · split at h
    · cases h
    · split at h
      · split at h
        · next hfound =>
          cases h
          exact (Array.findIdx?_eq_some_iff_getElem.mp hfound).1
        · cases h
      · cases h

theorem lt_size_of_followFrom {seen : List NodeId} (hid : id < g.size)
    (h : g.followFrom seen id = .ok target) : target < g.size := by
  fun_induction followFrom g seen id with
  | case1 =>
    cases h
    exact hid
  | case2 => cases h
  | case3 _ _ _ _ _ _ hn ih => exact ih (lt_size_of_resolve hn) h
  | case4 => cases h

theorem lt_size_of_follow (hid : id < g.size) (h : g.follow id = .ok target) : target < g.size :=
  lt_size_of_followFrom hid h

end

end Graph

end SchemaModel
