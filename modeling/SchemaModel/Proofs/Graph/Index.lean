import SchemaModel.Graph.Index
import SchemaModel.Proofs.Graph.Pointers

/-!
# What is entered in the index of a document

The index is filled while the tree of a document is walked, with fragments that are made on the way.
The nodes of the document say the same: those whose pointers lead through definitions alone have
entries, in the order of their ids, each under the fragment of its pointer.

* `foldlM_enter_ok`, `foldlM_enter`   entering goes well exactly when no fragment is met twice;
* `Tree.entries_eq`                   the entries of a tree are those of its nodes;
* `Index.ofTree_ok`                   so an index that is filled without a fault tells them.
-/

namespace SchemaModel

/-! ## entering -/

namespace Index

/-- the index with further entries -/
def append (index : Index) (entries : List Entry) : Index where
  fragments := index.fragments ++ entries.map fun e => (e.fragment, e.id)
  names := index.names ++ entries.flatMap fun e => e.name?.toList.map fun name => (e.id, name)

theorem append_nil (index : Index) : index.append [] = index := by
  rw [append, List.map_nil, List.flatMap_nil, List.append_nil, List.append_nil]

theorem append_cons (index : Index) (entry : Entry) (rest : List Entry) :
    index.append (entry :: rest) = (index.append [entry]).append rest := by
  simp only [append, List.map_cons, List.map_nil, List.flatMap_cons, List.flatMap_nil,
    List.append_nil, List.append_assoc, List.singleton_append]

/-- An entry is put behind the others. -/
theorem enter_eq (index : Index) (entry : Entry) :
    index.enter entry =
      if entry.fragment ∈ index.fragments.map Prod.fst then .error ⟨entry.fragment⟩
      else .ok (index.append [entry]) := by
  rw [enter, append, List.map_singleton, List.flatMap_singleton]

theorem foldlM_enter_ok {entries : List Entry} {index index' : Index}
    (h : entries.foldlM enter index = .ok index') : index' = index.append entries := by
  induction entries generalizing index with
  | nil =>
    cases h
    exact (append_nil _).symm
  | cons entry rest ih =>
    rw [List.foldlM_cons, enter_eq] at h
    split at h
    · cases h
    · rw [append_cons]
      exact ih h

/-- All entries are made if no fragment is met twice. -/
theorem foldlM_enter {entries : List Entry} {index : Index}
    (h : (index.fragments.map Prod.fst ++ entries.map Entry.fragment).Nodup) :
    entries.foldlM enter index = .ok (index.append entries) := by
  induction entries generalizing index with
  | nil =>
    rw [append_nil]
    rfl
  | cons entry rest ih =>
    have hfree : entry.fragment ∉ index.fragments.map Prod.fst := fun hm =>
      (List.nodup_append.mp h).2.2 _ hm _ List.mem_cons_self rfl
    have hrest : ((index.append [entry]).fragments.map Prod.fst ++
        rest.map Entry.fragment).Nodup := by
      rw [append, List.map_append, List.append_assoc]
      exact h
    rw [List.foldlM_cons, enter_eq, if_neg hfree, append_cons index entry rest]
    exact ih hrest

end Index

/-! ## pointers of definitions -/

namespace Pointer

/-- Behind a pointer that leads through definitions alone, only the rest of the way counts. -/
theorem isAddressable_append {p : Pointer} (h : p.isAddressable = true) (q : Pointer) :
    (p ++ q).isAddressable = q.isAddressable := by
  fun_induction isAddressable p with
  | case1 => rfl
  | case2 => cases h
  | case3 keyword name rest ih =>
    obtain ⟨hk, hrest⟩ := Bool.and_eq_true_iff.mp h
    rw [List.cons_append, List.cons_append, isAddressable, hk, Bool.true_and, ih hrest]

/-- A way that starts with another keyword leads to no definition. -/
theorem isAddressable_cons_of_ne {keyword : String} (h : keyword ≠ "definitions") (q : Pointer) :
    isAddressable (keyword :: q) = false := by
  cases q with
  | nil => rfl
  | cons name rest => rw [isAddressable, decide_eq_false h, Bool.false_and]

theorem isAddressable_definition {p : Pointer} (h : p.isAddressable = true) (name : String) :
    isAddressable (p ++ ["definitions"] ++ [name]) = true := by
  rw [List.append_assoc, isAddressable_append h]
  rfl

end Pointer

/-! ## entries of nodes -/

/-- the entry of a node, if references may address it -/
def Node.indexed? (n : Node) (id : NodeId) : Option Index.Entry :=
  if n.pointer.isAddressable then some ⟨n.pointer.fragment, id, n.pointer.definition?⟩ else none

theorem Node.indexed?_eq_some_iff {n : Node} {id : NodeId} {entry : Index.Entry} :
    n.indexed? id = some entry ↔
      n.pointer.isAddressable = true ∧ ⟨n.pointer.fragment, id, n.pointer.definition?⟩ = entry := by
  rw [Node.indexed?, Option.ite_none_right_eq_some, Option.some.injEq]

/-- the entries of nodes that are numbered from `first` on -/
def nodeEntries (first : NodeId) (part : List Node) : List Index.Entry :=
  (part.zipIdx first).filterMap fun (n, id) => n.indexed? id

theorem nodeEntries_append (first : NodeId) (front behind : List Node) :
    nodeEntries first (front ++ behind) =
      nodeEntries first front ++ nodeEntries (first + front.length) behind := by
  rw [nodeEntries, List.zipIdx_append, List.filterMap_append]
  rfl

theorem nodeEntries_eq_nil {first : NodeId} {part : List Node}
    (h : ∀ n ∈ part, n.pointer.isAddressable = false) : nodeEntries first part = [] := by
  rw [nodeEntries, List.filterMap_eq_nil_iff]
  rintro ⟨n, id⟩ hm
  have hn := h n (List.fst_mem_of_mem_zipIdx hm)
  show n.indexed? id = none
  rw [Node.indexed?, hn]
  rfl

namespace Schema

mutual

/-- The pointers of the nodes of a tree go on from that of the tree. -/
theorem Tree.prefix_pointer (tree : Tree) (p : Pointer) (first : NodeId) :
    ∀ n ∈ tree.nodes p first, p <+: n.pointer := by
  cases tree with
  | node content properties items definitions =>
    intro n hn
    simp only [Tree.nodes, List.mem_append, List.mem_singleton] at hn
    rcases hn with ((hn | hn) | hn) | rfl
    · exact (List.prefix_append _ _).trans (prefix_member properties _ _ n hn)
    · exact (List.prefix_append _ _).trans (prefix_items items _ _ n hn)
    · exact (List.prefix_append _ _).trans (prefix_member definitions _ _ n hn)
    · exact List.prefix_rfl

theorem prefix_member (members : List (String × Tree)) (p : Pointer) (first : NodeId) :
    ∀ n ∈ memberNodes p first members, p <+: n.pointer := by
  match members with
  | [] =>
    intro n hn
    rw [memberNodes] at hn
    cases hn
  | (name, tree) :: rest =>
    intro n hn
    rw [memberNodes] at hn
    rcases List.mem_append.mp hn with hn | hn
    · exact (List.prefix_append _ _).trans (tree.prefix_pointer _ _ n hn)
    · exact prefix_member rest _ _ n hn

theorem prefix_items (items : Option Tree) (p : Pointer) (first : NodeId) :
    ∀ n ∈ itemsNodes p first items, p <+: n.pointer := by
  match items with
  | none =>
    intro n hn
    rw [itemsNodes] at hn
    cases hn
  | some tree =>
    rw [itemsNodes]
    exact tree.prefix_pointer p first

end

mutual

/-- Below a tree that no fragment addresses nothing is entered. -/
theorem Tree.entries_none (tree : Tree) (first : NodeId) : tree.entries none first = [] := by
  cases tree with
  | node content properties items definitions =>
    simp [Tree.entries, memberEntries_none properties, itemsEntries_eq_nil items,
      memberEntries_none definitions]

theorem memberEntries_none (members : List (String × Tree)) (first : NodeId) :
    memberEntries none first members = [] := by
  match members with
  | [] => rw [memberEntries]
  | (name, tree) :: rest =>
    simp [memberEntries, tree.entries_none, memberEntries_none rest]

theorem itemsEntries_eq_nil (items : Option Tree) (first : NodeId) :
    itemsEntries first items = [] := by
  match items with
  | none => rw [itemsEntries]
  | some tree => rw [itemsEntries, tree.entries_none]

end

/-- the entry of a tree itself, unless it is the root -/
def Tree.ownEntry (tree : Tree) (p : Pointer) (first : NodeId) : List Index.Entry :=
  if p = [] then [] else [⟨p.fragment, tree.id first, p.getLast?⟩]

mutual

/-- The entries of a tree are those of its nodes. The tree itself is entered by what holds it,
unless it is the root. -/
theorem Tree.entries_eq (tree : Tree) {p : Pointer} (hp : p.isAddressable = true)
    (first : NodeId) :
    tree.entries (some p.fragment) first ++ tree.ownEntry p first =
      nodeEntries first (tree.nodes p first) := by
  cases tree with
  | node content properties items definitions =>
    have hother : ∀ keyword ≠ "definitions", ∀ n : Node, p ++ [keyword] <+: n.pointer →
        n.pointer.isAddressable = false := by
      rintro keyword hk n ⟨rest, hrest⟩
      rw [← hrest, List.append_assoc, Pointer.isAddressable_append hp]
      exact Pointer.isAddressable_cons_of_ne hk rest
    have hproperties : nodeEntries first
        (memberNodes (p ++ ["properties"]) first properties) = [] :=
      nodeEntries_eq_nil fun n hn =>
        hother "properties" (by decide) n (prefix_member properties _ _ n hn)
    have hitems : nodeEntries (first + membersSize properties)
        (itemsNodes (p ++ ["items"]) (first + membersSize properties) items) = [] :=
      nodeEntries_eq_nil fun n hn => hother "items" (by decide) n (prefix_items items _ _ n hn)
    have hdefinitions := memberEntries_eq definitions hp
      (first + membersSize properties + itemsSize items)
    have hid : (Tree.node content properties items definitions).id first =
        first + membersSize properties + itemsSize items + membersSize definitions := by
      simp [Tree.id, Tree.size, ← Nat.add_assoc]
    rw [Tree.nodes, nodeEntries_append, nodeEntries_append, nodeEntries_append, hproperties]
    simp only [List.length_append, length_memberNodes, length_itemsNodes, ← Nat.add_assoc]
    rw [hitems, ← hdefinitions, Tree.entries, memberEntries_none, itemsEntries_eq_nil,
      Tree.ownEntry, hid]
    -- what is left is the entry of the tree itself
    have hown : ∀ n : Node, n.pointer = p → ∀ id, nodeEntries id [n] =
        [⟨p.fragment, id, p.getLast?⟩] := by
      rintro n rfl id
      simp [nodeEntries, Node.indexed?, Pointer.definition?, hp]
    rw [hown _ rfl]
    by_cases hroot : p = []
    · subst hroot
      simp [Pointer.fragment]
    · have hsharp : p.fragment ≠ "#" := fun h => hroot (Pointer.fragment_inj.mp h)
      simp [hsharp, hroot]

/-- The same for the definitions of a tree. -/
theorem memberEntries_eq (members : List (String × Tree)) {p : Pointer}
    (hp : p.isAddressable = true) (first : NodeId) :
    memberEntries (some p.fragment) first members =
      nodeEntries first (memberNodes (p ++ ["definitions"]) first members) := by
  match members with
  | [] =>
    rw [memberEntries, memberNodes]
    rfl
  | (name, tree) :: rest =>
    have htree := tree.entries_eq (Pointer.isAddressable_definition hp name) first
    have hfragment : Pointer.push (Pointer.push p.fragment "definitions") name =
        Pointer.fragment (p ++ ["definitions"] ++ [name]) := by
      rw [Pointer.fragment, Pointer.fragment, List.foldl_append, List.foldl_append]
      rfl
    have hown : tree.ownEntry (p ++ ["definitions"] ++ [name]) first =
        [⟨Pointer.fragment (p ++ ["definitions"] ++ [name]), tree.id first, some name⟩] := by
      rw [Tree.ownEntry, if_neg (by simp), List.getLast?_append_of_ne_nil _ (by simp)]
      rfl
    rw [memberEntries, memberNodes, nodeEntries_append, length_nodes, ← htree, hown,
      memberEntries_eq rest hp]
    show (tree.entries (some (Pointer.push (Pointer.push p.fragment "definitions") name)) first ++
      [⟨Pointer.push (Pointer.push p.fragment "definitions") name, _, _⟩]) ++ _ = _
    rw [hfragment]

end

theorem Tree.entries_root (tree : Tree) :
    tree.entries (some "#") 0 = nodeEntries 0 (tree.nodes [] 0) := by
  have hroot := tree.entries_eq (p := []) rfl 0
  rwa [Tree.ownEntry, if_pos rfl, List.append_nil] at hroot

end Schema

/-! ## the index of a graph -/

/-- The entries of a graph are those of its nodes, under their ids. -/
theorem mem_nodeEntries {g : Graph} {entry : Index.Entry} :
    entry ∈ nodeEntries 0 g.nodes.toList ↔
      ∃ id < g.size, (g.node id).indexed? id = some entry := by
  rw [nodeEntries, List.mem_filterMap]
  constructor
  · rintro ⟨⟨n, id⟩, hm, he⟩
    have hat := List.mk_mem_zipIdx_iff_getElem?.mp hm
    rw [Array.getElem?_toList] at hat
    refine ⟨id, (Array.getElem?_eq_some_iff.mp hat).1, ?_⟩
    rw [Graph.node, hat]
    exact he
  · rintro ⟨id, hid, he⟩
    refine ⟨(g.node id, id), List.mk_mem_zipIdx_iff_getElem?.mpr ?_, he⟩
    rw [Array.getElem?_toList, Graph.getElem?_node hid]

/-- No node has two entries. -/
theorem pairwise_nodeEntries (first : NodeId) (part : List Node) :
    (nodeEntries first part).Pairwise fun a b => a.id ≠ b.id := by
  have hids : (part.zipIdx first).Pairwise fun a b => a.2 ≠ b.2 := by
    rw [← List.pairwise_map (f := Prod.snd) (R := (· ≠ ·)), List.zipIdx_map_snd]
    exact List.nodup_range'
  rw [nodeEntries, List.pairwise_filterMap]
  refine hids.imp fun {a b} hne entry he entry' he' => ?_
  obtain ⟨-, rfl⟩ := Node.indexed?_eq_some_iff.mp he
  obtain ⟨-, rfl⟩ := Node.indexed?_eq_some_iff.mp he'
  exact hne

namespace Graph

/-- the index that the nodes of a graph make up -/
def index (g : Graph) : Index := ({} : Index).append (nodeEntries 0 g.nodes.toList)

theorem mem_index_fragments {g : Graph} {s : String} {id : NodeId} :
    (s, id) ∈ g.index.fragments ↔
      id < g.size ∧ (g.node id).pointer.isAddressable = true ∧
        s = (g.node id).pointer.fragment := by
  show (s, id) ∈ List.map _ (nodeEntries 0 g.nodes.toList) ↔ _
  rw [List.mem_map]
  constructor
  · rintro ⟨entry, hm, he⟩
    obtain ⟨id', hid, hentry⟩ := mem_nodeEntries.mp hm
    obtain ⟨ha, rfl⟩ := Node.indexed?_eq_some_iff.mp hentry
    cases he
    exact ⟨hid, ha, rfl⟩
  · rintro ⟨hid, ha, rfl⟩
    exact ⟨_, mem_nodeEntries.mpr ⟨id, hid, Node.indexed?_eq_some_iff.mpr ⟨ha, rfl⟩⟩, rfl⟩

theorem mem_index_names {g : Graph} {id : NodeId} {name : String} :
    (id, name) ∈ g.index.names ↔
      id < g.size ∧ (g.node id).pointer.definition? = some name := by
  show (id, name) ∈ List.flatMap _ (nodeEntries 0 g.nodes.toList) ↔ _
  rw [List.mem_flatMap]
  constructor
  · rintro ⟨entry, hm, he⟩
    obtain ⟨id', hid, hentry⟩ := mem_nodeEntries.mp hm
    obtain ⟨-, rfl⟩ := Node.indexed?_eq_some_iff.mp hentry
    obtain ⟨name', hname, he⟩ := List.mem_map.mp he
    cases he
    exact ⟨hid, Option.mem_toList.mp hname⟩
  · rintro ⟨hid, hname⟩
    have ha : (g.node id).pointer.isAddressable = true := by
      by_contra hn
      rw [Pointer.definition?, if_neg hn] at hname
      cases hname
    refine ⟨_, mem_nodeEntries.mpr ⟨id, hid, Node.indexed?_eq_some_iff.mpr ⟨ha, rfl⟩⟩, ?_⟩
    exact List.mem_map.mpr ⟨name, Option.mem_toList.mpr hname, rfl⟩

/-- The fragments of the index are those that the graph lists. -/
theorem sortedSet_index_fragments (g : Graph) :
    Text.sortedSet (g.index.fragments.map Prod.fst) = g.fragments := by
  have hlist : ∀ (part : List Node) (first : NodeId),
      (nodeEntries first part).map Index.Entry.fragment =
        (part.filter (·.pointer.isAddressable)).map (·.pointer.fragment) := by
    intro part
    induction part with
    | nil => exact fun first => rfl
    | cons n rest ih =>
      intro first
      rw [← List.singleton_append, nodeEntries_append, List.map_append, ih, List.filter_append,
        List.map_append]
      congr 1
      cases ha : n.pointer.isAddressable <;>
        simp [nodeEntries, Node.indexed?, ha]
  have hkeys : g.index.fragments.map Prod.fst =
      (nodeEntries 0 g.nodes.toList).map Index.Entry.fragment := by
    show (List.map _ (nodeEntries 0 g.nodes.toList)).map Prod.fst = _
    rw [List.map_map]
    rfl
  rw [hkeys, hlist, fragments]

/-- No node has two names. -/
theorem nodup_index_names (g : Graph) : (g.index.names.map Prod.fst).Nodup := by
  rw [List.Nodup, List.pairwise_map]
  show (List.flatMap _ (nodeEntries 0 g.nodes.toList)).Pairwise _
  rw [List.pairwise_flatMap]
  constructor
  · intro entry _
    cases entry.name? with
    | none => exact .nil
    | some name => exact List.pairwise_singleton _ _
  · refine (pairwise_nodeEntries 0 _).imp fun {a b} hne x hx y hy => ?_
    obtain ⟨_, -, rfl⟩ := List.mem_map.mp hx
    obtain ⟨_, -, rfl⟩ := List.mem_map.mp hy
    exact hne

end Graph

theorem Index.ofTree_ok {tree : Schema.Tree} {index : Index} (h : ofTree tree = .ok index) :
    index = (Graph.ofTree tree).index := by
  rw [ofTree, Schema.Tree.entries_root] at h
  exact foldlM_enter_ok h

end SchemaModel
