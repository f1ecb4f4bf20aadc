import Mathlib.Data.List.Forall2
import SchemaModel.Proofs.Json.Fields
import SchemaModel.Schema.Tree

/-!
# The places of schemas in a document

A document is a schema. In a schema, every field of the objects under `properties` and `definitions`
is a schema, and what stands under `items` is one unless it is null. The reader of schemas visits
exactly these places: under a key it reads what a lookup of the key finds.

* `readGroup_eq`, `readItems_eq`   schemas are read from what a lookup of their keyword finds;
* `read_ok`                        a tree that is read without a fault, taken apart.
-/

namespace SchemaModel

namespace Json

/-- The value at a pointer, looked up key by key. -/
def at? : Json → Pointer → Option Json
  | j, [] => some j
  | .object fields, key :: rest => (fields.lookup key).bind (at? · rest)
  | _, _ :: _ => none

theorem at?_append (j : Json) (p q : Pointer) : j.at? (p ++ q) = (j.at? p).bind (·.at? q) := by
  induction p generalizing j with
  | nil => rfl
  | cons key rest ih =>
    rw [List.cons_append]
    cases j with
    | object fields =>
      rw [at?, at?]
      cases fields.lookup key with
      | none => rfl
      | some value => exact ih value
    | _ => rfl

theorem Distinct.at? {j v : Json} (h : j.Distinct) {p : Pointer} (hv : j.at? p = some v) :
    v.Distinct := by
  induction p generalizing j with
  | nil =>
    cases hv
    exact h
  | cons key rest ih =>
    cases j with
    | object fields =>
      rw [Json.at?] at hv
      obtain ⟨value, hl, hv⟩ := Option.bind_eq_some_iff.mp hv
      exact ih (h.of_mem (h.lookup_iff.mp hl)) hv
    | _ => cases hv

end Json

/-- a place where a document has a schema -/
inductive IsPosition (document : Json) : Pointer → Prop
  | root : IsPosition document []
  | member {p fields key members name j} (h : IsPosition document p)
      (hp : document.at? p = some (.object fields)) (hk : key = "properties" ∨ key = "definitions")
      (hm : fields.lookup key = some (.object members)) (hj : (name, j) ∈ members) :
      IsPosition document (p ++ [key, name])
  | items {p fields j} (h : IsPosition document p)
      (hp : document.at? p = some (.object fields)) (hj : fields.lookup "items" = some j)
      (hn : j ≠ .null) : IsPosition document (p ++ ["items"])

namespace Schema

/-! ## what stands under the keywords -/

/-- the fields of the object under a key -/
def membersAt (key : String) (fields : List (String × Json)) : List (String × Json) :=
  match fields.lookup key with
  | some (.object members) => members
  | _ => []

/-- what stands under `items`, unless it is null -/
def itemsAt? (fields : List (String × Json)) : Option Json :=
  match fields.lookup "items" with
  | some .null => none
  | found => found

/-- the field of a group, and its tree -/
def ReadsAs (p : Pointer) (field : String × Json) (member : String × Tree) : Prop :=
  member.1 = field.1 ∧ Tree.read (p ++ [field.1]) field.2 = .ok member.2

/-- the content of a schema is read from the fields of its object -/
def ContentOf (p : Pointer) (fields : List (String × Json)) (c : Content) : Prop :=
  checkTypes p fields = .ok () ∧ ∃ reference type values, readReference fields = .ok reference ∧
    readType p fields = .ok type ∧ readValues p fields = .ok values ∧
    c = content fields reference type values

theorem itemsAt?_eq_some_iff {fields : List (String × Json)} {j : Json} :
    itemsAt? fields = some j ↔ fields.lookup "items" = some j ∧ j ≠ .null :=
  Json.valueAt?_eq_some_iff

theorem distinct_membersAt {fields : List (String × Json)} (h : Json.Distinct (.object fields))
    (key : String) : ((Schema.membersAt key fields).map Prod.fst).Nodup ∧
      ∀ field ∈ Schema.membersAt key fields, field.2.Distinct := by
  unfold Schema.membersAt
  split
  · next members hm =>
    have hgroup : Json.Distinct (.object members) := h.of_mem (h.lookup_iff.mp hm)
    exact ⟨hgroup.nodup_keys, fun field hf => hgroup.of_mem hf⟩
  · exact ⟨List.nodup_nil, nofun⟩

theorem distinct_itemsAt? {fields : List (String × Json)} (h : Json.Distinct (.object fields))
    (j : Json) (hj : Schema.itemsAt? fields = some j) : j.Distinct :=
  h.of_mem (h.lookup_iff.mp (itemsAt?_eq_some_iff.mp hj).1)

section
variable {document : Json} {p : Pointer} {fields : List (String × Json)}

/-- The fields of a group lie in the document under their names, and they are places of schemas. -/
theorem at?_member (hd : document.Distinct) (hpos : IsPosition document p)
    (hp : document.at? p = some (.object fields)) {key : String}
    (hk : key = "properties" ∨ key = "definitions") {field : String × Json}
    (hf : field ∈ membersAt key fields) :
    document.at? (p ++ [key] ++ [field.1]) = some field.2 ∧
      IsPosition document (p ++ [key] ++ [field.1]) := by
  obtain ⟨name, j⟩ := field
  unfold membersAt at hf
  split at hf
  · next members hm =>
    have hobject : Json.Distinct (.object fields) := hd.at? hp
    have hgroup : Json.Distinct (.object members) := hobject.of_mem (hobject.lookup_iff.mp hm)
    rw [List.append_assoc]
    refine ⟨?_, .member hpos hp hk hm hf⟩
    rw [Json.at?_append, hp, Option.bind_some]
    show (fields.lookup key).bind (·.at? [name]) = some j
    rw [hm, Option.bind_some]
    show (members.lookup name).bind (·.at? []) = some j
    rw [hgroup.lookup_iff.mpr hf, Option.bind_some, Json.at?]
  · cases hf

theorem at?_items (hpos : IsPosition document p) (hp : document.at? p = some (.object fields))
    {j : Json} (hj : itemsAt? fields = some j) :
    document.at? (p ++ ["items"]) = some j ∧ IsPosition document (p ++ ["items"]) := by
  obtain ⟨hl, hn⟩ := itemsAt?_eq_some_iff.mp hj
  refine ⟨?_, .items hpos hp hl hn⟩
  rw [Json.at?_append, hp, Option.bind_some]
  show (fields.lookup "items").bind (·.at? []) = some j
  rw [hl, Option.bind_some, Json.at?]

end

/-- A group is read from the object that a lookup of its key finds. -/
theorem readGroup_eq (key : String) (p : Pointer) (fields : List (String × Json)) :
    readGroup key p fields = readMembers (p ++ [key]) (membersAt key fields) := by
  induction fields with
  | nil => rw [readGroup, membersAt, List.lookup_nil, readMembers]
  | cons field rest ih =>
    obtain ⟨k, v⟩ := field
    rw [membersAt, List.lookup_cons]
    by_cases hk : k = key
    · subst hk
      rw [beq_self_eq_true]
      cases v with
      | object members => rw [readGroup, if_pos rfl]
      | _ =>
        rw [readGroup, if_pos rfl, readMembers]
        nofun
    · rw [beq_false_of_ne (Ne.symm hk)]
      show _ = readMembers _ (membersAt key rest)
      rw [← ih]
      cases v with
      | object members => rw [readGroup, if_neg hk]
      | _ =>
        rw [readGroup, if_neg hk]
        nofun

theorem readMembers_ok {p : Pointer} {fields : List (String × Json)}
    {members : List (String × Tree)} (h : readMembers p fields = .ok members) :
    List.Forall₂ (ReadsAs p) fields members := by
  induction fields generalizing members with
  | nil =>
    rw [readMembers] at h
    cases h
    exact .nil
  | cons field rest ih =>
    rw [readMembers] at h
    obtain ⟨tree, ht, h⟩ := bind_ok h
    obtain ⟨others, ho, h⟩ := bind_ok h
    cases h
    exact .cons ⟨rfl, ht⟩ (ih ho)

/-- The schema of all items is read from what a lookup of `items` finds. -/
theorem readItems_eq (p : Pointer) (fields : List (String × Json)) :
    readItems p fields =
      match itemsAt? fields with
      | none => .ok none
      | some (.array _) => .error (.invalidSchema p.text .itemsPerPosition)
      | some j => some <$> Tree.read (p ++ ["items"]) j := by
  induction fields with
  | nil => rw [readItems, itemsAt?, List.lookup_nil]
  | cons field rest ih =>
    obtain ⟨k, v⟩ := field
    rw [itemsAt?, List.lookup_cons]
    by_cases hk : k = "items"
    · subst hk
      rw [beq_self_eq_true]
      cases v with
      | null | array _ => rw [readItems, if_pos rfl]
      | _ =>
        rw [readItems, if_pos rfl]
        · nofun
        · nofun
    · rw [beq_false_of_ne (Ne.symm hk)]
      show _ = match itemsAt? rest with
        | none => _
        | some (.array _) => _
        | some j => _
      rw [← ih]
      cases v with
      | null | array _ => rw [readItems, if_neg hk]
      | _ =>
        rw [readItems, if_neg hk]
        · nofun
        · nofun

theorem readItems_ok {p : Pointer} {fields : List (String × Json)} {items : Option Tree}
    (h : readItems p fields = .ok items) :
    Option.Rel (fun j tree => Tree.read (p ++ ["items"]) j = .ok tree) (itemsAt? fields) items := by
  rw [readItems_eq] at h
  split at h
  · next hnone =>
    cases h
    rw [hnone]
    exact .none
  · cases h
  · next hsome =>
    obtain ⟨tree, ht, rfl⟩ := map_eq_ok_iff.mp h
    rw [hsome]
    exact .some ht

/-- A tree with what it is read from: the content from the object itself, the trees under the
keywords from what a lookup of the keyword finds. -/
inductive Tree.IsRead (p : Pointer) : Json → Tree → Prop
  | node {fields content properties items definitions} (hc : ContentOf p fields content)
      (hp : List.Forall₂ (ReadsAs (p ++ ["properties"])) (membersAt "properties" fields)
        properties)
      (hi : Option.Rel (fun j tree => Tree.read (p ++ ["items"]) j = .ok tree) (itemsAt? fields)
        items)
      (hd : List.Forall₂ (ReadsAs (p ++ ["definitions"])) (membersAt "definitions" fields)
        definitions) :
      IsRead p (.object fields) (.node content properties items definitions)

theorem read_ok {p : Pointer} {j : Json} {tree : Tree} (h : Tree.read p j = .ok tree) :
    Tree.IsRead p j tree := by
  cases j with
  | object fields =>
    rw [Tree.read] at h
    obtain ⟨⟨⟩, hchecked, h⟩ := bind_ok h
    obtain ⟨reference, hreference, h⟩ := bind_ok h
    obtain ⟨properties, hproperties, h⟩ := bind_ok h
    obtain ⟨items, hitems, h⟩ := bind_ok h
    obtain ⟨definitions, hdefinitions, h⟩ := bind_ok h
    obtain ⟨type, htype, h⟩ := bind_ok h
    obtain ⟨values, hvalues, h⟩ := bind_ok h
    cases h
    rw [readGroup_eq] at hproperties hdefinitions
    exact .node ⟨hchecked, reference, type, values, hreference, htype, hvalues, rfl⟩
      (readMembers_ok hproperties) (readItems_ok hitems) (readMembers_ok hdefinitions)
  | _ =>
    rw [Tree.read] at h
    · cases h
    · nofun

end Schema

end SchemaModel
