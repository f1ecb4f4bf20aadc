import SchemaModel.Graph.Resolve
import SchemaModel.Proofs.Graph.Index

/-!
# Where references lead

A reference leads to a node exactly if it is the fragment of that node's pointer and the node is the
root or a definition that is reached through definitions alone. The index that is filled while a
document is read says the same: no fragment is met twice, and it has an entry for every reference
that leads somewhere.

* `addressed_iff`             the way to such a definition can be told by its pointer;
* `resolve_eq_ok_iff`         a reference leads to a node by the fragment of its pointer alone;
* `isOf_of_read`              the index of a document is filled without a fault, and says the same;
* `references_and_fragments`  all of this for the graph of a document.
-/

namespace SchemaModel

/-- the root, and the definitions that are reached from it through definitions alone -/
inductive Graph.Addressed (g : Graph) : NodeId → Prop
  | root : Addressed g g.root
  | definition {id name child} (h : Addressed g id)
      (hm : (name, child) ∈ (g.node id).definitions) : Addressed g child

/-- The index tells where references lead, and what the definitions of a graph are called. -/
structure Index.IsOf (index : Index) (g : Graph) : Prop where
  nodup_fragments : (index.fragments.map Prod.fst).Nodup
  fragments : ∀ s id, (s, id) ∈ index.fragments ↔ g.resolve (.fragment s) = .ok id
  nodup_names : (index.names.map Prod.fst).Nodup
  names : ∀ id name, (id, name) ∈ index.names ↔ (g.node id).pointer.definition? = some name
  sorted_keys : Text.sortedSet (index.fragments.map Prod.fst) = g.fragments

/-! ## ways through definitions -/

/-- A place that is not reached through definitions alone has none such behind it. -/
theorem IsPosition.addressable_or {document : Json} {p : Pointer} (h : IsPosition document p) :
    p.isAddressable = true ∨ ∀ q, Pointer.isAddressable (p ++ q) = false := by
  induction h with
  | root => exact .inl rfl
  | @member p _ key _ _ _ _ _ hk _ _ ih =>
    rcases ih with ha | hn
    · rcases hk with rfl | rfl
      · refine .inr fun q => ?_
        rw [List.append_assoc, Pointer.isAddressable_append ha]
        exact Pointer.isAddressable_cons_of_ne (by decide) _
      · refine .inl ?_
        rw [Pointer.isAddressable_append ha]
        rfl
    · refine .inr fun q => ?_
      rw [List.append_assoc]
      exact hn _
  | items _ _ _ _ ih =>
    refine .inr fun q => ?_
    rw [List.append_assoc]
    rcases ih with ha | hn
    · rw [Pointer.isAddressable_append ha]
      exact Pointer.isAddressable_cons_of_ne (by decide) _
    · exact hn _

namespace Graph

section
variable {document : Json} {g : Graph}

theorem pointsTo_root (h : ofJson document = .ok g) : g.PointsTo g.root [] := by
  obtain ⟨tree, -, rfl⟩ := ofJson_ok h
  have hid : tree.id 0 = (ofTree tree).root := by
    rw [Schema.Tree.id, root, size_ofTree, Nat.zero_add]
  rw [← hid]
  exact Schema.Tree.pointsTo (holds_ofTree tree)

theorem PointsTo.unique (hd : document.Distinct) (h : ofJson document = .ok g) {id id' : NodeId}
    {p : Pointer} (hid : g.PointsTo id p) (hid' : g.PointsTo id' p) : id = id' :=
  id_of_pointer hd h hid.1 hid'.1 (hid.2.trans hid'.2.symm)

theorem pointsTo_of_addressed (hd : document.Distinct) (h : ofJson document = .ok g) {id : NodeId}
    (ha : g.Addressed id) : id < g.size ∧ (g.node id).pointer.isAddressable = true := by
  induction ha with
  | root =>
    obtain ⟨hlt, hp⟩ := pointsTo_root h
    exact ⟨hlt, by rw [hp]; rfl⟩
  | @definition id name child _ hm ih =>
    obtain ⟨hid, hp⟩ := ih
    obtain ⟨-, fields, -, hbuilt⟩ := exact_of_ofJson hd h id hid
    obtain ⟨field, -, -, hlt, hchild⟩ := mem_of_forall₂ hbuilt.definitions _ hm
    refine ⟨hlt, ?_⟩
    rw [hchild]
    exact Pointer.isAddressable_definition hp field.1

/-- A definition stands below the schema that holds it. -/
theorem pointsTo_definition (hd : document.Distinct) (h : ofJson document = .ok g) {outer : NodeId}
    (ho : outer < g.size) {name : String} {id : NodeId}
    (hm : (name, id) ∈ (g.node outer).definitions) :
    g.PointsTo id ((g.node outer).pointer ++ ["definitions", name]) := by
  obtain ⟨-, fields, -, hbuilt⟩ := exact_of_ofJson hd h outer ho
  obtain ⟨field, -, hname, hchild⟩ := mem_of_forall₂ hbuilt.definitions _ hm
  have hname : name = field.1 := hname
  rw [List.append_assoc] at hchild
  rw [hname]
  exact hchild

/-- By induction on the places of the document: the node of a place that is reached through
definitions alone is reached so in the graph. -/
theorem addressed_of_isPosition (hd : document.Distinct) (h : ofJson document = .ok g) {p : Pointer}
    (hpos : IsPosition document p) (ha : p.isAddressable = true) :
    ∀ id, g.PointsTo id p → g.Addressed id := by
  have hexact := exact_of_ofJson hd h
  induction hpos with
  | root =>
    intro id hid
    rw [hid.unique hd h (pointsTo_root h)]
    exact .root
  | @member p fields key members name j hpos hp hk hm hj ih =>
    intro id hid
    have hfront : p.isAddressable = true :=
      hpos.addressable_or.resolve_right fun hn => by rw [hn] at ha; cases ha
    rw [Pointer.isAddressable_append hfront] at ha
    have hkey : key = "definitions" := of_decide_eq_true (Bool.and_eq_true_iff.mp ha).1
    subst hkey
    obtain ⟨parent, hparent⟩ := exists_of_isPosition ⟨_, pointsTo_root h⟩ hexact hpos
    obtain ⟨hlt, rfl⟩ := hparent
    obtain ⟨-, fields', hp', hbuilt⟩ := hexact parent hlt
    rw [hp] at hp'
    cases hp'
    have hfield : (name, j) ∈ Schema.membersAt "definitions" fields := by
      rw [Schema.membersAt, hm]
      exact hj
    obtain ⟨child, hmem, -, hchild⟩ := mem_of_forall₂ hbuilt.definitions.flip (name, j) hfield
    rw [List.append_assoc] at hchild
    rw [hid.unique hd h hchild]
    exact .definition (ih hfront parent ⟨hlt, rfl⟩) hmem
  | items hpos =>
    -- a way through `items` is none through definitions
    rcases hpos.addressable_or with hfront | hn
    · rw [Pointer.isAddressable_append hfront] at ha
      cases ha
    · rw [hn] at ha
      cases ha

theorem addressed_iff (hd : document.Distinct) (h : ofJson document = .ok g) {id : NodeId} :
    g.Addressed id ↔ id < g.size ∧ (g.node id).pointer.isAddressable = true :=
  ⟨pointsTo_of_addressed hd h, fun ⟨hid, ha⟩ =>
    addressed_of_isPosition hd h (exact_of_ofJson hd h id hid).1 ha id ⟨hid, rfl⟩⟩

/-! ## resolving -/

theorem find?_eq_some_iff (hd : document.Distinct) (h : ofJson document = .ok g) {p : Pointer}
    {id : NodeId} : g.find? p = some id ↔ g.PointsTo id p := by
  have hat : ∀ i, (hi : i < g.nodes.size) → g.node i = g.nodes[i] := fun i hi =>
    Option.some.inj ((getElem?_node hi).symm.trans (Array.getElem?_eq_getElem hi))
  rw [find?, Array.findIdx?_eq_some_iff_getElem]
  constructor
  · rintro ⟨hid, hp, -⟩
    exact ⟨hid, by rw [hat id hid]; exact of_decide_eq_true hp⟩
  · intro hid
    refine ⟨hid.1, decide_eq_true (by rw [← hat id hid.1]; exact hid.2), fun i hi hp => ?_⟩
    -- another node with this pointer would be the same
    have hlt : i < g.nodes.size := hi.trans hid.1
    have hsame : g.PointsTo i p := ⟨hlt, by rw [hat i hlt]; exact of_decide_eq_true hp⟩
    exact absurd (hsame.unique hd h hid) (Nat.ne_of_lt hi)

theorem resolve_eq_ok_iff (hd : document.Distinct) (h : ofJson document = .ok g) {r : Reference}
    {id : NodeId} : g.resolve r = .ok id ↔
      r = .fragment (g.node id).pointer.fragment ∧ g.Addressed id := by
  rw [addressed_iff hd h]
  constructor
  · intro hr
    unfold resolve at hr
    split at hr
    · cases hr
    · next s =>
      split at hr
      · cases hr
      · next p hp =>
        split at hr
        · next ha =>
          split at hr
          · next found hfound =>
            cases hr
            obtain ⟨hid, rfl⟩ := (find?_eq_some_iff hd h).mp hfound
            exact ⟨by rw [Pointer.ofFragment?_eq_some_iff.mp hp], hid, ha⟩
          · cases hr
        · cases hr
  · rintro ⟨rfl, hid, ha⟩
    unfold resolve
    dsimp only
    rw [Pointer.ofFragment?_fragment]
    dsimp only
    rw [if_pos ha, (find?_eq_some_iff hd h).mpr ⟨hid, rfl⟩]

/-- A reference that leads nowhere is reported as unresolved, with its text. -/
theorem resolve_error {r : Reference} {e : Error} (h : g.resolve r = .error e) :
    ∃ reason, e = .unresolvedReference r.text reason := by
  unfold resolve at h
  split at h
  · exact ⟨_, (Except.error.inj h).symm⟩
  · split at h
    · exact ⟨_, (Except.error.inj h).symm⟩
    · split at h
      · split at h
        · cases h
        · exact ⟨_, (Except.error.inj h).symm⟩
      · exact ⟨_, (Except.error.inj h).symm⟩

/-! ## the index -/

/-- Outside of the graph there is no name. -/
theorem lt_size_of_definition? {id : NodeId} {name : String}
    (h : (g.node id).pointer.definition? = some name) : id < g.size := by
  by_contra hout
  rw [node_of_size_le (Nat.le_of_not_lt hout)] at h
  cases h

/-- The index of a document is filled without a fault: no two nodes have one pointer, so no fragment
is met twice. -/
theorem isOf_of_read (hd : document.Distinct) (h : ofJson document = .ok g) :
    ∃ tree, Schema.Tree.read [] document = .ok tree ∧ Index.ofTree tree = .ok g.index ∧
      g.index.IsOf g := by
  have hnodup : ((nodeEntries 0 g.nodes.toList).map Index.Entry.fragment).Nodup := by
    rw [List.Nodup, List.pairwise_map]
    refine (pairwise_nodeEntries 0 _).imp_of_mem fun {a b} ha hb hne he => hne ?_
    obtain ⟨id, hid, ha⟩ := mem_nodeEntries.mp ha
    obtain ⟨id', hid', hb⟩ := mem_nodeEntries.mp hb
    obtain ⟨-, rfl⟩ := Node.indexed?_eq_some_iff.mp ha
    obtain ⟨-, rfl⟩ := Node.indexed?_eq_some_iff.mp hb
    exact id_of_pointer hd h hid hid' (Pointer.fragment_inj.mp he)
  have hkeys : (g.index.fragments.map Prod.fst).Nodup := by
    show ((List.map _ (nodeEntries 0 g.nodes.toList)).map Prod.fst).Nodup
    rw [List.map_map]
    exact hnodup
  obtain ⟨tree, hread, rfl⟩ := ofJson_ok h
  refine ⟨tree, hread, ?_, ?_⟩
  · rw [Index.ofTree, Schema.Tree.entries_root]
    exact Index.foldlM_enter hnodup
  · refine ⟨hkeys, fun s id => ?_, nodup_index_names _, fun id name => ?_,
      sortedSet_index_fragments _⟩
    · rw [mem_index_fragments, resolve_eq_ok_iff hd h, addressed_iff hd h, Reference.fragment.injEq]
      constructor
      · rintro ⟨hid, ha, hs⟩
        exact ⟨hs, hid, ha⟩
      · rintro ⟨hs, hid, ha⟩
        exact ⟨hid, ha, hs⟩
    · rw [mem_index_names]
      exact ⟨fun hn => hn.2, fun hn => ⟨lt_size_of_definition? hn, hn⟩⟩

/-- The definitions that references may address, all but the root, have their keys as names. -/
theorem definition?_eq_some_iff (hd : document.Distinct) (h : ofJson document = .ok g)
    {id : NodeId} {name : String} : (g.node id).pointer.definition? = some name ↔
      g.Addressed id ∧ id ≠ g.root ∧ ∃ front, (g.node id).pointer = front ++ [name] := by
  rw [addressed_iff hd h]
  constructor
  · intro hn
    have hid := lt_size_of_definition? hn
    rw [Pointer.definition?] at hn
    split at hn
    · next ha =>
      refine ⟨⟨hid, ha⟩, ?_, ?_⟩
      · rintro rfl
        rw [(pointsTo_root h).2] at hn
        cases hn
      · exact ⟨_, (List.dropLast_append_getLast? name hn).symm⟩
    · cases hn
  · rintro ⟨⟨-, ha⟩, -, front, hfront⟩
    rw [Pointer.definition?, if_pos ha, hfront, List.getLast?_concat]

/-- The name of such a definition is its key. -/
theorem definition?_of_addressed (hd : document.Distinct) (h : ofJson document = .ok g)
    {outer id : NodeId} (ho : g.Addressed outer) {name : String}
    (hm : (name, id) ∈ (g.node outer).definitions) :
    (g.node id).pointer.definition? = some name := by
  obtain ⟨-, hp⟩ := pointsTo_definition hd h (pointsTo_of_addressed hd h ho).1 hm
  refine (definition?_eq_some_iff hd h).mpr ⟨.definition ho hm, ?_,
    (g.node outer).pointer ++ ["definitions"], by rw [hp, List.append_assoc]; rfl⟩
  rintro rfl
  rw [(pointsTo_root h).2] at hp
  exact List.append_ne_nil_of_right_ne_nil _ (by simp) hp.symm

/-- A reference leads to the root or to a definition that is reached through definitions alone, and
it must be the fragment of its pointer; any other reference is reported as unresolved. While the
document is read no fragment is entered twice, every such definition has one fragment, and its name
is the last key of it. What is read from a text has distinct keys, by `Json.distinct_of_read`. -/
theorem references_and_fragments (hd : document.Distinct) (h : ofJson document = .ok g) :
    (∀ r id, g.resolve r = .ok id ↔
      r = .fragment ("#" ++ (g.node id).pointer.text) ∧ g.Addressed id) ∧
    (∀ r, (∀ id, g.resolve r ≠ .ok id) →
      ∃ reason, g.resolve r = .error (.unresolvedReference r.text reason)) ∧
    (∃ tree index, Schema.Tree.read [] document = .ok tree ∧ Index.ofTree tree = .ok index ∧
      index.IsOf g) ∧
    (∀ id, g.Addressed id → ∃! s, g.resolve (.fragment s) = .ok id) ∧
    (∀ id name, (g.node id).pointer.definition? = some name ↔
      g.Addressed id ∧ id ≠ g.root ∧
        ∃ front,
          Pointer.ofFragment? ("#" ++ (g.node id).pointer.text) = some (front ++ [name])) := by
  simp only [← Pointer.fragment_eq, Pointer.ofFragment?_fragment, Option.some.injEq]
  refine ⟨fun r id => resolve_eq_ok_iff hd h, fun r hn => ?_, ?_, fun id ha => ?_,
    fun id name => definition?_eq_some_iff hd h⟩
  · cases hr : g.resolve r with
    | ok id => exact absurd hr (hn id)
    | error e =>
      obtain ⟨reason, rfl⟩ := resolve_error hr
      exact ⟨reason, rfl⟩
  · obtain ⟨tree, hread, hindex, hof⟩ := isOf_of_read hd h
    exact ⟨tree, _, hread, hindex, hof⟩
  · refine ⟨_, (resolve_eq_ok_iff hd h).mpr ⟨rfl, ha⟩, fun s hs => ?_⟩
    exact Reference.fragment.inj ((resolve_eq_ok_iff hd h).mp hs).1

end

def nestedText : String :=
  "\x7b\"id\":\"\",\"properties\":\x7b" ++
  "\"p/q\":\x7b\"$ref\":\"#/definitions//definitions/a~1~0\",\"default\":null\x7d," ++
  "\"l\":\x7b\"type\":\"array\",\"items\":\x7b\"$ref\":\"#\"\x7d\x7d\x7d," ++
  "\"definitions\":\x7b\"\":\x7b\"definitions\":\x7b" ++
  "\"a/~\":\x7b\"type\":\"object\",\"not\":\x7b\x7d\x7d,\"definitions\":\x7b\x7d\x7d\x7d\x7d\x7d"

/-- Definitions in definitions, with keys that have to be escaped, and keywords that are not read.
-/
def nested : Json :=
  .object [
    ("id", .string ""),
    ("properties", .object [
      ("p/q", .object [
        ("$ref", .string "#/definitions//definitions/a~1~0"), ("default", .null)]),
      ("l", .object [("type", .string "array"), ("items", .object [("$ref", .string "#")])])]),
    ("definitions", .object [
      ("", .object [
        ("definitions", .object [
          ("a/~", .object [("type", .string "object"), ("not", .object [])]),
          ("definitions", .object [])])])])]

set_option maxRecDepth 2000 in
theorem read_nestedText : Json.read nestedText = .ok nested := by
  unfold Json.read nestedText
  simp only [String.toList_append]
  repeat rw [String.toList_ofList]
  rfl

/-- A definition in a definition has one fragment, in which its key is escaped. A URI leads nowhere.
-/
theorem references_of_nested : Json.read nestedText = .ok nested ∧
    ∃ g, ofJson nested = .ok g ∧
      g.resolve (.fragment "#/definitions//definitions/a~1~0") = .ok 3 ∧
      (∃! s, g.resolve (.fragment s) = .ok 3) ∧
      (g.node 3).pointer.definition? = some "a/~" ∧
      (∀ u, ∃ reason, g.resolve (.uri u) = .error (.unresolvedReference u.text reason)) ∧
      ∃ tree index, Schema.Tree.read [] nested = .ok tree ∧ Index.ofTree tree = .ok index ∧
        index.IsOf g := by
  obtain ⟨g, hg⟩ : ∃ g, ofJson nested = .ok g := ⟨_, rfl⟩
  obtain ⟨hresolve, herror, hindex, hunique, hname⟩ :=
    references_and_fragments (Json.distinct_of_read read_nestedText) hg
  have hroot : g.root = 6 := by cases hg; rfl
  have houter : (g.node 6).definitions = [("", 5)] := by cases hg; rfl
  have hinner : (g.node 5).definitions = [("a/~", 3), ("definitions", 4)] := by cases hg; rfl
  have htext : "#" ++ (g.node 3).pointer.text = "#/definitions//definitions/a~1~0" := by
    cases hg
    decide
  have haddressed : g.Addressed 3 := by
    have hfive : g.Addressed 5 :=
      .definition .root (by rw [hroot, houter]; exact List.mem_cons_self)
    exact .definition hfive (by rw [hinner]; exact List.mem_cons_self)
  have hlast : Pointer.ofFragment? "#/definitions//definitions/a~1~0" =
      some (["definitions", "", "definitions"] ++ ["a/~"]) := by decide
  refine ⟨read_nestedText, g, hg, ?_, hunique 3 haddressed, ?_, fun u => ?_, hindex⟩
  · exact (hresolve _ 3).mpr ⟨congrArg _ htext.symm, haddressed⟩
  · exact (hname 3 _).mpr ⟨haddressed, by rw [hroot]; decide, _, htext ▸ hlast⟩
  · exact herror _ fun id hid => Reference.noConfusion ((hresolve _ id).mp hid).1

end Graph

end SchemaModel
