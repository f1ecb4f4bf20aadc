import SchemaModel.Proofs.Graph.References
import SchemaModel.Proofs.Schema.Issues

/-!
# Refused keywords and nodes

The strict check and the reader of schemas go through a document apart from each other: the one in
the order of the document, by its keys, the other by keywords, each looked up. For a document that
is read they meet the same objects, with the same pointers. So the issues of a document are, up to
their order, those of the objects from which its nodes are built.

* `Tree.perm_issues`    the issues of a tree are those of its nodes;
* `issues_at_nodes`     so each is found exactly once, at the node that it points to.
-/

namespace SchemaModel

/-! ## the issues of trees -/

/-- the issues of the object from which a node is built -/
def Node.issues (document : Json) (n : Node) : List Schema.Issue :=
  match document.at? n.pointer with
  | some (.object fields) => (Schema.refusedKeys fields).map (Schema.issue n.pointer)
  | _ => []

namespace Schema

mutual

/-- The issues of a tree are those of its nodes. -/
theorem Tree.perm_issues {document : Json} (hd : document.Distinct) (tree : Tree) {p : Pointer}
    {j : Json} (first : NodeId) (hr : Tree.read p j = .ok tree) (hat : document.at? p = some j)
    (hpos : IsPosition document p) :
    (issues p j).Perm ((tree.nodes p first).flatMap (Node.issues document)) := by
  cases tree with
  | node content properties items definitions =>
    cases read_ok hr with
    | @node fields _ _ _ _ _ hp hi hdef =>
      have hkeys : Json.Distinct (.object fields) := hd.at? hat
      have hproperties := members_perm_issues hd properties first hp fun field hf =>
        at?_member hd hpos hat (.inl rfl) hf
      have hitems := items_perm_issues hd items (first + membersSize properties) hi fun j hj =>
        at?_items hpos hat hj
      have hdefinitions := members_perm_issues hd definitions
        (first + membersSize properties + itemsSize items) hdef fun field hf =>
          at?_member hd hpos hat (.inr rfl) hf
      have hown : ∀ n : Node, n.pointer = p →
          n.issues document = (refusedKeys fields).map (issue p) := by
        rintro n rfl
        rw [Node.issues, hat]
      rw [issues, Tree.nodes, List.flatMap_append, List.flatMap_append, List.flatMap_append,
        List.flatMap_singleton, hown _ rfl]
      refine (perm_fieldIssues p hkeys.nodup_keys).trans ?_
      exact ((hproperties.append hitems).append hdefinitions).append_right _

theorem members_perm_issues {document : Json} (hd : document.Distinct)
    (members : List (String × Tree)) {p : Pointer} {fields : List (String × Json)}
    (first : NodeId) (hr : List.Forall₂ (ReadsAs p) fields members)
    (hat : ∀ field ∈ fields, document.at? (p ++ [field.1]) = some field.2 ∧
      IsPosition document (p ++ [field.1])) :
    (memberIssues p fields).Perm
      ((memberNodes p first members).flatMap (Node.issues document)) := by
  cases members with
  | nil =>
    cases hr
    rw [memberIssues, memberNodes]
    rfl
  | cons member rest =>
    obtain ⟨name, tree⟩ := member
    cases hr with
    | @cons field _ fields _ hread hrest =>
      obtain ⟨hname, hread⟩ := hread
      cases hname
      obtain ⟨hfield, hfields⟩ := List.forall_mem_cons.mp hat
      rw [memberIssues, memberNodes, List.flatMap_append]
      exact (Tree.perm_issues hd tree first hread hfield.1 hfield.2).append
        (members_perm_issues hd rest (first + tree.size) hrest hfields)

theorem items_perm_issues {document : Json} (hd : document.Distinct) (items : Option Tree)
    {p : Pointer} {found : Option Json} (first : NodeId)
    (hr : Option.Rel (fun j tree => Tree.read p j = .ok tree) found items)
    (hat : ∀ j, found = some j → document.at? p = some j ∧ IsPosition document p) :
    (found.toList.flatMap (issues p)).Perm
      ((itemsNodes p first items).flatMap (Node.issues document)) := by
  cases items with
  | none =>
    cases hr
    rw [itemsNodes]
    rfl
  | some tree =>
    cases hr with
    | some hread =>
      obtain ⟨hj, hpos⟩ := hat _ rfl
      rw [itemsNodes, Option.toList_some, List.flatMap_singleton]
      exact Tree.perm_issues hd tree first hread hj hpos

end

end Schema

/-! ## the issues of a document -/

namespace Graph

variable {document : Json} {g : Graph}

theorem perm_issues (hd : document.Distinct) (h : ofJson document = .ok g) :
    (Schema.issues [] document).Perm (g.nodes.toList.flatMap (Node.issues document)) := by
  obtain ⟨tree, hr, rfl⟩ := ofJson_ok h
  exact Schema.Tree.perm_issues hd tree 0 hr rfl .root

/-- An issue is that of a key that is not supported, in the object of a node. -/
theorem mem_issues_iff (hd : document.Distinct) (h : ofJson document = .ok g) {i : Schema.Issue} :
    i ∈ Schema.issues [] document ↔
      ∃ id < g.size, ∃ fields, document.at? (g.node id).pointer = some (.object fields) ∧
        ∃ key ∈ fields.map Prod.fst, key ∉ Schema.supported ∧
          i = Schema.issue (g.node id).pointer key := by
  rw [(perm_issues hd h).mem_iff, List.mem_flatMap]
  constructor
  · rintro ⟨n, hn, hi⟩
    obtain ⟨id, hid, rfl⟩ := mem_nodes.mp hn
    obtain ⟨-, fields, hat, -⟩ := exact_of_ofJson hd h id hid
    rw [Node.issues, hat] at hi
    obtain ⟨key, hkey, rfl⟩ := List.mem_map.mp hi
    obtain ⟨hmem, hrefused⟩ := List.mem_filter.mp hkey
    exact ⟨id, hid, fields, hat, key, hmem, of_decide_eq_true hrefused, rfl⟩
  · rintro ⟨id, hid, fields, hat, key, hmem, hrefused, rfl⟩
    refine ⟨_, mem_nodes.mpr ⟨id, hid, rfl⟩, ?_⟩
    rw [Node.issues, hat]
    exact List.mem_map_of_mem (List.mem_filter.mpr ⟨hmem, decide_eq_true hrefused⟩)

theorem pairwise_pointers (hd : document.Distinct) (h : ofJson document = .ok g) :
    g.nodes.toList.Pairwise fun n n' => n.pointer ≠ n'.pointer := by
  obtain ⟨tree, hr, rfl⟩ := ofJson_ok h
  exact List.pairwise_map.mp (Schema.Tree.nodup_pointers tree 0 hd hr).1

theorem pointer_of_mem_issues {n : Node} {pointer keyword : String}
    (h : (pointer, keyword) ∈ (n.issues document).map fun i => (i.pointer, i.keyword)) :
    pointer = n.pointer.text := by
  obtain ⟨i, hi, he⟩ := List.mem_map.mp h
  obtain ⟨rfl, -⟩ := Prod.mk.inj he
  unfold Node.issues at hi
  split at hi
  · obtain ⟨key, -, rfl⟩ := List.mem_map.mp hi
    rfl
  · cases hi

/-- No two issues have one pointer and one keyword. -/
theorem nodup_issues (hd : document.Distinct) (h : ofJson document = .ok g) :
    ((Schema.issues [] document).map fun i => (i.pointer, i.keyword)).Nodup := by
  rw [((perm_issues hd h).map _).nodup_iff, List.map_flatMap, List.nodup_flatMap]
  constructor
  · -- in one object the keys are distinct
    intro n hn
    obtain ⟨id, hid, rfl⟩ := mem_nodes.mp hn
    obtain ⟨-, fields, hat, -⟩ := exact_of_ofJson hd h id hid
    have hobject : Json.Distinct (.object fields) := hd.at? hat
    rw [Node.issues, hat]
    show ((List.map _ (Schema.refusedKeys fields)).map _).Nodup
    rw [List.map_map]
    exact (hobject.nodup_keys.filter _).map fun a b he => (Prod.mk.inj he).2
  · -- and two nodes have different pointers
    refine (pairwise_pointers hd h).imp fun {n n'} hne => ?_
    rintro ⟨pointer, keyword⟩ hi hi'
    have hpointer := pointer_of_mem_issues hi
    have hpointer' := pointer_of_mem_issues hi'
    exact hne (Pointer.text_inj.mp (hpointer.symm.trans hpointer'))

/-- The strict check reports, each exactly once, the keys that are not supported in the objects from
which the nodes of a document are built, with the pointers of these nodes; it passes if there are
none. What is read from a text has distinct keys, by `Json.distinct_of_read`. -/
theorem issues_at_nodes (hd : document.Distinct) (h : ofJson document = .ok g) :
    ∃ issues : List Schema.Issue,
      Schema.checkSupported document =
        (if issues = [] then .ok () else .error (.refusedKeywords issues)) ∧
      (issues.map fun i => (i.pointer, i.keyword)).Nodup ∧
      (∀ i, i ∈ issues ↔ ∃ id < g.size, ∃ fields,
        document.at? (g.node id).pointer = some (.object fields) ∧ (g.node id).BuiltFrom g fields ∧
          ∃ key ∈ fields.map Prod.fst, key ∉ Schema.supported ∧
            i = Schema.issue (g.node id).pointer key) ∧
      (Schema.checkSupported document = .ok () ↔ ∀ id < g.size, ∃ fields,
        document.at? (g.node id).pointer = some (.object fields) ∧ (g.node id).BuiltFrom g fields ∧
          ∀ key ∈ fields.map Prod.fst, key ∈ Schema.supported) := by
  have hexact := exact_of_ofJson hd h
  refine ⟨Schema.issues [] document, Schema.checkSupported_eq _, nodup_issues hd h, fun i => ?_, ?_⟩
  · rw [mem_issues_iff hd h]
    constructor
    · rintro ⟨id, hid, fields, hat, hkey⟩
      obtain ⟨-, fields', hat', hbuilt⟩ := hexact id hid
      cases hat.symm.trans hat'
      exact ⟨id, hid, fields, hat, hbuilt, hkey⟩
    · rintro ⟨id, hid, fields, hat, -, hkey⟩
      exact ⟨id, hid, fields, hat, hkey⟩
  · rw [Schema.checkSupported_eq_ok_iff, List.eq_nil_iff_forall_not_mem]
    constructor
    · intro hnone id hid
      obtain ⟨-, fields, hat, hbuilt⟩ := hexact id hid
      refine ⟨fields, hat, hbuilt, fun key hkey => ?_⟩
      by_contra hrefused
      exact hnone _ ((mem_issues_iff hd h).mpr ⟨id, hid, fields, hat, key, hkey, hrefused, rfl⟩)
    · intro hall i hi
      obtain ⟨id, hid, fields, hat, key, hkey, hrefused, -⟩ := (mem_issues_iff hd h).mp hi
      obtain ⟨fields', hat', -, hsupported⟩ := hall id hid
      cases hat.symm.trans hat'
      exact hrefused (hsupported key hkey)

def nestedIssues : List Schema.Issue := [
  ⟨"", "id", .unsupported⟩,
  ⟨"/properties/p~1q", "default", .unsupported⟩,
  ⟨"/definitions//definitions/a~1~0", "not", .unsupported⟩]

/-- A keyword at the root, one in a property and one in a definition of a definition. -/
theorem issues_of_nested : Json.read nestedText = .ok nested ∧
    Schema.checkSupported nested = .error (.refusedKeywords nestedIssues) ∧
    ∃ g, ofJson nested = .ok g ∧ ∀ i, i ∈ nestedIssues ↔ ∃ id < g.size, ∃ fields,
      nested.at? (g.node id).pointer = some (.object fields) ∧ (g.node id).BuiltFrom g fields ∧
        ∃ key ∈ fields.map Prod.fst, key ∉ Schema.supported ∧
          i = Schema.issue (g.node id).pointer key := by
  obtain ⟨g, hg⟩ : ∃ g, ofJson nested = .ok g := ⟨_, rfl⟩
  obtain ⟨issues, hcheck, -, hmem, -⟩ :=
    issues_at_nodes (Json.distinct_of_read read_nestedText) hg
  have hfound : Schema.checkSupported nested = .error (.refusedKeywords nestedIssues) := by
    have hissues : Schema.issues [] nested = nestedIssues := by decide
    rw [Schema.checkSupported_eq, hissues]
    rfl
  -- the list of the theorem is the one that is reported
  have hsame : issues = nestedIssues := by
    rw [hfound] at hcheck
    split at hcheck
    · cases hcheck
    · cases hcheck
      rfl
  subst hsame
  exact ⟨read_nestedText, hfound, g, hg, hmem⟩

end Graph

end SchemaModel
