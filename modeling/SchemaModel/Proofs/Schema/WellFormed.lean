import Mathlib
import SchemaModel.Proofs.Graph.References

/-!
# Which documents are accepted

An object is well formed if every keyword that is read has a value of its type, or null, and if the
type, the reference and the values that it gives are such. This is said of the object alone,
whatever the schemas in it are. A document is accepted exactly if such an object stands at every
place of a schema, wherever the reader looks for the faults: before the nested schemas are read,
between them or behind them.

* `wellFormed_iff`             an object is well formed if no keyword of it is refused;
* `exists_ownFault`            the error of a document is that of a schema in it, at its place;
* `isRead_of_isPosition`       in a document that is read, every schema is;
* `accepted_iff_well_formed`   which documents are accepted, and what is blamed otherwise.
-/

namespace SchemaModel

open Json

namespace Schema

/-! ## objects that can be schemas -/

/-- the names of the types -/
def typeNames : List String :=
  ["object", "array", "string", "integer", "number", "boolean", "null"]

/-- the keywords whose value is a text -/
def textKeys : List String := ["title", "description", "type", "format", "$ref"]

/-- A value has the type that its keyword asks for. Under a key that is not read anything may
stand. -/
structure HasType (key : String) (j : Json) : Prop where
  text : key ∈ textKeys → j.IsText
  group : key = "properties" ∨ key = "definitions" → ∃ members, j = .object members
  texts : key = "required" → j.IsTexts
  sequence : key = "enum" → ∃ items, j = .array items

/-- An object that can be a schema, whatever the schemas in it are. A null counts as absent. -/
structure WellFormed (fields : List (String × Json)) : Prop where
  types : ∀ key j, valueAt? key fields = some j → HasType key j
  type : ∀ s, valueAt? "type" fields = some (.string s) → s ∈ typeNames
  reference : ∀ s, valueAt? "$ref" fields = some (.string s) → ∃ r, Reference.read s = .ok r
  /-- texts, at least one and none of them twice -/
  values : ∀ items, valueAt? "enum" fields = some (.array items) →
    ∃ ss : List String, items = ss.map .string ∧ ss ≠ [] ∧ ss.Nodup
  /-- one schema for all items -/
  items : ∀ schemas, valueAt? "items" fields ≠ some (.array schemas)

/-- At a pointer stands an object that is well formed. -/
def WellFormedAt (document : Json) (p : Pointer) : Prop :=
  ∃ fields, document.at? p = some (.object fields) ∧ WellFormed fields

/-! ## keywords that are not refused -/

theorem hasType_iff {key : String} {j : Json} : HasType key j ↔
    (key ∈ textKeys → j.IsText) ∧
    (key = "properties" ∨ key = "definitions" → ∃ members, j = .object members) ∧
    (key = "required" → j.IsTexts) ∧ (key = "enum" → ∃ items, j = .array items) :=
  ⟨fun h => ⟨h.text, h.group, h.texts, h.sequence⟩, fun h => ⟨h.1, h.2.1, h.2.2.1, h.2.2.2⟩⟩

theorem mismatch?_eq_none_iff {key : String} {j : Json} :
    mismatch? (key, j) = none ↔ j = .null ∨ HasType key j := by
  rw [hasType_iff]
  unfold mismatch?
  split
  case h_10 => simp_all [textKeys]
  all_goals
    next hkey =>
    cases hkey
    simp [faultOf_optional_eq_none_iff, textKeys, asText_ok_iff, asTexts_ok_iff,
      asFields_eq_ok_iff, asItems_eq_ok_iff]

section
variable {p : Pointer} {fields : List (String × Json)}

theorem checkTypes_eq_ok_iff (hk : (fields.map Prod.fst).Nodup) :
    checkTypes p fields = .ok () ↔ ∀ key j, valueAt? key fields = some j → HasType key j := by
  have hnone : checkTypes p fields = .ok () ↔ ∀ field ∈ fields, mismatch? field = none := by
    rw [← List.findSome?_eq_none_iff, checkTypes]
    cases fields.findSome? mismatch? <;> simp
  rw [hnone]
  constructor
  · intro h key j hj
    obtain ⟨hl, hn⟩ := valueAt?_eq_some_iff.mp hj
    exact (mismatch?_eq_none_iff.mp (h _ ((lookup_eq_some_iff_mem hk).mp hl))).resolve_left hn
  · rintro h ⟨key, j⟩ hf
    rw [mismatch?_eq_none_iff, or_iff_not_imp_left]
    exact fun hn => h key j (valueAt?_eq_some_iff.mpr ⟨(lookup_eq_some_iff_mem hk).mpr hf, hn⟩)

theorem readReference_ok_iff : (∃ r, readReference fields = .ok r) ↔
    ∀ s, valueAt? "$ref" fields = some (.string s) → ∃ r, Reference.read s = .ok r := by
  simp only [← textAt?_eq_some_iff, readReference]
  cases textAt? "$ref" fields with
  | none => simp
  | some s => cases h : Reference.read s <;> simp [h]

theorem isSome_ofText?_iff {s : String} : (ValueType.ofText? s).isSome ↔ s ∈ typeNames := by
  unfold ValueType.ofText?
  split <;> simp_all [typeNames]

theorem readType_ok_iff : (∃ t, readType p fields = .ok t) ↔
    ∀ s, valueAt? "type" fields = some (.string s) → s ∈ typeNames := by
  simp only [← textAt?_eq_some_iff, ← isSome_ofText?_iff, readType]
  cases textAt? "type" fields with
  | none => simp
  | some s => cases h : ValueType.ofText? s <;> simp [h]

/-- Distinct texts are read, which do not stand in front either. -/
theorem readDistinct_eq_ok_iff {before : List String} {items : List Json} {ss : List String} :
    readDistinct before items = .ok ss ↔
      items = ss.map .string ∧ ss.Nodup ∧ ∀ s ∈ ss, s ∉ before := by
  induction items generalizing before ss with
  | nil =>
    rw [readDistinct]
    cases ss <;> simp
  | cons item rest ih =>
    constructor
    · intro h
      cases item with
      | string s =>
        rw [readDistinct] at h
        split at h
        · cases h
        · next hs =>
          obtain ⟨others, ho, rfl⟩ := map_eq_ok_iff.mp h
          obtain ⟨rfl, hnodup, hout⟩ := ih.mp ho
          simp only [List.mem_append, List.mem_singleton, not_or] at hout
          exact ⟨rfl, List.nodup_cons.mpr ⟨fun hm => (hout s hm).2 rfl, hnodup⟩,
            List.forall_mem_cons.mpr ⟨hs, fun s' hm => (hout s' hm).1⟩⟩
      | _ => cases h
    · rintro ⟨hitems, hnodup, hout⟩
      cases ss with
      | nil => cases hitems
      | cons s ss =>
        cases hitems
        obtain ⟨hnew, hnodup⟩ := List.nodup_cons.mp hnodup
        obtain ⟨hs, hout⟩ := List.forall_mem_cons.mp hout
        have hrest : readDistinct (before ++ [s]) (ss.map .string) = .ok ss := by
          refine ih.mpr ⟨rfl, hnodup, fun s' hm => ?_⟩
          rw [List.mem_append, List.mem_singleton, not_or]
          exact ⟨hout s' hm, fun he => hnew (he ▸ hm)⟩
        rw [readDistinct, if_neg hs, hrest]
        rfl

theorem readValues_ok_iff : (∃ values, readValues p fields = .ok values) ↔
    ∀ items, valueAt? "enum" fields = some (.array items) →
      ∃ ss : List String, items = ss.map .string ∧ ss ≠ [] ∧ ss.Nodup := by
  simp only [valueAt?_eq_some_iff, readValues]
  split
  · next hl => simp [hl]
  · next items hne hl =>
    cases hread : readDistinct [] items with
    | ok ss =>
      obtain ⟨rfl, hnodup, -⟩ := readDistinct_eq_ok_iff.mp hread
      simp only [hl]
      refine iff_of_true ⟨_, rfl⟩ ?_
      rintro _ ⟨hitems, -⟩
      cases hitems
      exact ⟨ss, rfl, fun hnil => hne (hnil ▸ List.map_nil), hnodup⟩
    | error fault =>
      refine iff_of_false nofun fun h => ?_
      obtain ⟨ss, rfl, -, hnodup⟩ := h items ⟨hl, nofun⟩
      have hok := readDistinct_eq_ok_iff.mpr ⟨rfl, hnodup, fun s _ => List.not_mem_nil⟩
      cases hread.symm.trans hok
  · next _ hlist =>
    refine iff_of_true ⟨none, rfl⟩ ?_
    rintro items ⟨hl, -⟩
    exact absurd hl (hlist items)

/-- An object is well formed if no keyword of it is refused. -/
theorem wellFormed_iff (hk : (fields.map Prod.fst).Nodup) (p : Pointer) : WellFormed fields ↔
    checkTypes p fields = .ok () ∧ (∃ r, readReference fields = .ok r) ∧
    (∃ t, readType p fields = .ok t) ∧ (∃ values, readValues p fields = .ok values) ∧
    ∀ schemas, itemsAt? fields ≠ some (.array schemas) := by
  rw [checkTypes_eq_ok_iff hk, readReference_ok_iff, readType_ok_iff, readValues_ok_iff]
  constructor
  · rintro ⟨htypes, htype, hreference, hvalues, hitems⟩
    exact ⟨htypes, hreference, htype, hvalues, hitems⟩
  · rintro ⟨htypes, hreference, htype, hvalues, hitems⟩
    exact ⟨htypes, htype, hreference, hvalues, hitems⟩

end

/-! ## the errors of a document -/

/-- What makes a value at a pointer no schema, whatever the schemas in it are. -/
inductive OwnFault (p : Pointer) : Json → Error → Prop
  | notObject {j} (h : ∀ fields, j ≠ .object fields) :
      OwnFault p j (.invalidSchema p.text .notObject)
  | types {fields e} (h : checkTypes p fields = .error e) : OwnFault p (.object fields) e
  | reference {fields e} (h : readReference fields = .error e) : OwnFault p (.object fields) e
  | items {fields schemas} (h : itemsAt? fields = some (.array schemas)) :
      OwnFault p (.object fields) (.invalidSchema p.text .itemsPerPosition)
  | type {fields e} (h : readType p fields = .error e) : OwnFault p (.object fields) e
  | values {fields e} (h : readValues p fields = .error e) : OwnFault p (.object fields) e

section
variable {p : Pointer} {fields : List (String × Json)} {j : Json} {e : Error}

theorem OwnFault.not_wellFormed (hk : (fields.map Prod.fst).Nodup)
    (h : OwnFault p (.object fields) e) : ¬ WellFormed fields := by
  rw [wellFormed_iff hk p]
  rintro ⟨htypes, ⟨r, hreference⟩, ⟨t, htype⟩, ⟨values, hvalues⟩, hitems⟩
  cases h with
  | notObject h => exact h fields rfl
  | types h => cases htypes.symm.trans h
  | reference h => cases hreference.symm.trans h
  | items h => exact hitems _ h
  | type h => cases htype.symm.trans h
  | values h => cases hvalues.symm.trans h

/-- A fault is reported with the pointer of the schema, or with the text of its reference. -/
theorem OwnFault.reported (h : OwnFault p j e) : (∃ fault, e = .invalidSchema p.text fault) ∨
    ∃ fields s fault, j = .object fields ∧ valueAt? "$ref" fields = some (.string s) ∧
      Reference.read s = .error fault ∧ e = .malformedReference s fault := by
  cases h with
  | notObject => exact .inl ⟨_, rfl⟩
  | items => exact .inl ⟨_, rfl⟩
  | types h =>
    unfold checkTypes at h
    split at h
    · cases h
    · cases h
      exact .inl ⟨_, rfl⟩
  | @reference fields _ h =>
    unfold readReference at h
    split at h
    · cases h
    · next s hs =>
      split at h
      · cases h
      · next fault hread =>
        cases h
        exact .inr ⟨fields, s, fault, rfl, textAt?_eq_some_iff.mp hs, hread, rfl⟩
  | type h =>
    unfold readType at h
    split at h
    · cases h
    · split at h
      · cases h
      · cases h
        exact .inl ⟨_, rfl⟩
  | values h =>
    unfold readValues at h
    split at h
    · cases h
      exact .inl ⟨_, rfl⟩
    · split at h
      · cases h
      · cases h
        exact .inl ⟨_, rfl⟩
    · cases h

theorem readMembers_error (h : readMembers p fields = .error e) :
    ∃ field ∈ fields, Tree.read (p ++ [field.1]) field.2 = .error e := by
  induction fields with
  | nil => cases h
  | cons field rest ih =>
    rw [readMembers] at h
    rcases bind_error h with h | ⟨_, -, h⟩
    · exact ⟨field, List.mem_cons_self, h⟩
    · rcases bind_error h with h | ⟨_, -, h⟩
      · obtain ⟨field', hf, h⟩ := ih h
        exact ⟨field', List.mem_cons_of_mem _ hf, h⟩
      · cases h

theorem sizeOf_lt_of_lookup {key : String} (h : fields.lookup key = some j) :
    sizeOf j < sizeOf fields := by
  have hfield := List.sizeOf_lt_of_mem (mem_of_lookup h)
  rw [Prod.mk.sizeOf_spec] at hfield
  omega

theorem sizeOf_lt_of_mem_membersAt {key : String} {field : String × Json}
    (h : field ∈ membersAt key fields) : sizeOf field.2 < sizeOf fields := by
  obtain ⟨name, j⟩ := field
  unfold membersAt at h
  split at h
  · next members hm =>
    have hgroup := sizeOf_lt_of_lookup hm
    have hfield := List.sizeOf_lt_of_mem h
    rw [Json.object.sizeOf_spec] at hgroup
    rw [Prod.mk.sizeOf_spec] at hfield
    show sizeOf j < sizeOf fields
    omega
  · cases h

end

/-- Induction on the schemas in a value: those in the properties and the definitions of an object,
and that of its items. -/
@[elab_as_elim]
theorem schema_induction {P : Json → Prop}
    (object : ∀ fields, (∀ key, ∀ field ∈ membersAt key fields, P field.2) →
      (∀ j, itemsAt? fields = some j → P j) → P (.object fields))
    (other : ∀ j, (∀ fields, j ≠ .object fields) → P j) (j : Json) : P j :=
  match j with
  | .object fields =>
    object fields (fun _ field _ => schema_induction object other field.2)
      fun j _ => schema_induction object other j
  | .null => other _ nofun
  | .bool _ => other _ nofun
  | .int _ => other _ nofun
  | .double _ => other _ nofun
  | .string _ => other _ nofun
  | .array _ => other _ nofun
termination_by sizeOf j
decreasing_by
  · next hf =>
    have hsmaller := sizeOf_lt_of_mem_membersAt hf
    rw [Json.object.sizeOf_spec]
    omega
  · next hj =>
    have hsmaller := sizeOf_lt_of_lookup (itemsAt?_eq_some_iff.mp hj).1
    rw [Json.object.sizeOf_spec]
    omega

/-- The error of a document is that of a schema in it, at its place. -/
theorem exists_ownFault {document : Json} (hd : document.Distinct) {p : Pointer} {j : Json}
    {e : Error} (hpos : IsPosition document p) (hp : document.at? p = some j)
    (h : Tree.read p j = .error e) :
    ∃ q v, IsPosition document q ∧ document.at? q = some v ∧ OwnFault q v e := by
  induction j using schema_induction generalizing p with
  | other j hj =>
    have herror : Tree.read p j = .error (.invalidSchema p.text .notObject) := by
      rw [Tree.read]
      exact hj
    cases herror.symm.trans h
    exact ⟨p, j, hpos, hp, .notObject hj⟩
  | object fields hmembers hitems =>
    have hown (h : OwnFault p (.object fields) e) :
        ∃ q v, IsPosition document q ∧ document.at? q = some v ∧ OwnFault q v e :=
      ⟨p, _, hpos, hp, h⟩
    have hgroup : ∀ key, (key = "properties" ∨ key = "definitions") →
        readGroup key p fields = .error e →
        ∃ q v, IsPosition document q ∧ document.at? q = some v ∧ OwnFault q v e := by
      intro key hk hg
      rw [readGroup_eq] at hg
      obtain ⟨field, hf, hread⟩ := readMembers_error hg
      obtain ⟨hat, hpos'⟩ := at?_member hd hpos hp hk hf
      exact hmembers key field hf hpos' hat hread
    rw [Tree.read] at h
    rcases bind_error h with h | ⟨⟨⟩, -, h⟩
    · exact hown (.types h)
    rcases bind_error h with h | ⟨_, -, h⟩
    · exact hown (.reference h)
    rcases bind_error h with h | ⟨_, -, h⟩
    · exact hgroup "properties" (.inl rfl) h
    rcases bind_error h with h | ⟨_, -, h⟩
    · rw [readItems_eq] at h
      split at h
      · cases h
      · next hlist =>
        cases h
        exact hown (.items hlist)
      · next j _ hj =>
        obtain ⟨hat, hpos'⟩ := at?_items hpos hp hj
        exact hitems j hj hpos' hat (map_eq_error_iff.mp h)
    rcases bind_error h with h | ⟨_, -, h⟩
    · exact hgroup "definitions" (.inr rfl) h
    rcases bind_error h with h | ⟨_, -, h⟩
    · exact hown (.type h)
    rcases bind_error h with h | ⟨_, -, h⟩
    · exact hown (.values h)
    · cases h

/-! ## documents that are read -/

section
variable {document : Json} {p : Pointer} {fields : List (String × Json)} {tree : Tree}

/-- What is read as a schema is well formed. -/
theorem Tree.IsRead.wellFormed (hk : (fields.map Prod.fst).Nodup)
    (h : Tree.IsRead p (.object fields) tree) : WellFormed fields := by
  cases h with
  | node hc _ hi _ =>
    obtain ⟨htypes, reference, type, values, hreference, htype, hvalues, -⟩ := hc
    refine (wellFormed_iff hk p).mpr
      ⟨htypes, ⟨_, hreference⟩, ⟨_, htype⟩, ⟨_, hvalues⟩, fun schemas hlist => ?_⟩
    rw [hlist] at hi
    cases hi with
    | some hread => cases hread

/-- In a document that is read, every schema is read at its place. -/
theorem isRead_of_isPosition (hd : document.Distinct) (h : Tree.read [] document = .ok tree)
    (hpos : IsPosition document p) :
    ∃ fields tree, document.at? p = some (.object fields) ∧
      Tree.IsRead p (.object fields) tree := by
  have hobject {p : Pointer} {j : Json} {tree : Tree} (hat : document.at? p = some j)
      (h : Tree.read p j = .ok tree) : ∃ fields tree, document.at? p = some (.object fields) ∧
        Tree.IsRead p (.object fields) tree := by
    have hread := read_ok h
    cases hread with
    | node hc hp hi hd => exact ⟨_, _, hat, .node hc hp hi hd⟩
  induction hpos with
  | root => exact hobject rfl h
  | @member p fields key members name j hpos hp hk hm hj ih =>
    obtain ⟨fields', tree', hat, hread⟩ := ih
    cases hp.symm.trans hat
    have hf : (name, j) ∈ membersAt key fields := by
      rw [membersAt, hm]
      exact hj
    obtain ⟨hat', -⟩ := at?_member hd hpos hp hk hf
    obtain ⟨tree, htree⟩ : ∃ tree, Tree.read (p ++ [key] ++ [name]) j = .ok tree := by
      cases hread with
      | node _ hproperties _ hdefinitions =>
        rcases hk with rfl | rfl
        · obtain ⟨member, -, -, htree⟩ := mem_of_forall₂ hproperties.flip _ hf
          exact ⟨_, htree⟩
        · obtain ⟨member, -, -, htree⟩ := mem_of_forall₂ hdefinitions.flip _ hf
          exact ⟨_, htree⟩
    rw [List.append_assoc] at hat' htree
    exact hobject hat' htree
  | @items p fields j hpos hp hj hn ih =>
    obtain ⟨fields', tree', hat, hread⟩ := ih
    cases hp.symm.trans hat
    have hi := itemsAt?_eq_some_iff.mpr ⟨hj, hn⟩
    cases hread with
    | node _ _ hitems _ =>
      rw [hi] at hitems
      cases hitems with
      | some htree => exact hobject (at?_items hpos hp hi).1 htree

end

end Schema

open Schema

/-- The error of a document is that of a schema that is not well formed. -/
theorem exists_illFormed {document : Json} (hd : document.Distinct) {e : Error}
    (h : Tree.read [] document = .error e) :
    ∃ p j, IsPosition document p ∧ document.at? p = some j ∧ OwnFault p j e ∧
      ¬ WellFormedAt document p := by
  obtain ⟨p, j, hpos, hat, hfault⟩ := exists_ownFault hd .root rfl h
  refine ⟨p, j, hpos, hat, hfault, ?_⟩
  rintro ⟨fields, hat', hwell⟩
  cases hat.symm.trans hat'
  exact hfault.not_wellFormed (hd.at? hat).nodup_keys hwell

/-- A document is accepted exactly if a well-formed object stands at every place of a schema, and
then the index of its definitions is filled without a fault. The error of a document that is not
accepted blames a schema that is not well formed: by its pointer, or by the text of a reference in
it that cannot be read. What is read from a text has distinct keys, by `Json.distinct_of_read`. -/
theorem accepted_iff_well_formed {document : Json} (hd : document.Distinct) :
    ((∃ g, Graph.ofJson document = .ok g) ↔
      ∀ p, IsPosition document p → WellFormedAt document p) ∧
    (∀ tree, Tree.read [] document = .ok tree → ∃ index, Index.ofTree tree = .ok index) ∧
    ∀ e, Graph.ofJson document = .error e →
      ∃ p, IsPosition document p ∧ ¬ WellFormedAt document p ∧
        ((∃ fault, e = .invalidSchema p.text fault) ∨
          ∃ fields s fault, document.at? p = some (.object fields) ∧
            valueAt? "$ref" fields = some (.string s) ∧ Reference.read s = .error fault ∧
            e = .malformedReference s fault) := by
  refine ⟨⟨?_, fun hall => ?_⟩, fun tree htree => ?_, fun e he => ?_⟩
  · rintro ⟨g, hg⟩ p hpos
    obtain ⟨tree, htree, -⟩ := Graph.ofJson_ok hg
    obtain ⟨fields, tree', hat, hread⟩ := isRead_of_isPosition hd htree hpos
    exact ⟨fields, hat, hread.wellFormed (hd.at? hat).nodup_keys⟩
  · cases hg : Graph.ofJson document with
    | ok g => exact ⟨g, rfl⟩
    | error e =>
      obtain ⟨p, -, hpos, -, -, hill⟩ := exists_illFormed hd (map_eq_error_iff.mp hg)
      exact absurd (hall p hpos) hill
  · obtain ⟨tree', htree', hindex, -⟩ :=
      Graph.isOf_of_read hd (map_eq_ok_iff.mpr ⟨tree, htree, rfl⟩ : Graph.ofJson document = _)
    cases htree.symm.trans htree'
    exact ⟨_, hindex⟩
  · obtain ⟨p, j, hpos, hat, hfault, hill⟩ := exists_illFormed hd (map_eq_error_iff.mp he)
    refine ⟨p, hpos, hill, hfault.reported.imp_right ?_⟩
    rintro ⟨fields, s, fault, rfl, hs, hread, rfl⟩
    exact ⟨fields, s, fault, hat, hs, hread, rfl⟩

def statesText : String :=
  "\x7b\"title\":null,\"items\":\x7b\"required\":[\"x\"],\"not\":3\x7d\x7d"

/-- A null in place of a text, and a keyword that is not read. -/
def states : Json :=
  .object [
    ("title", .null),
    ("items", .object [("required", .array [.string "x"]), ("not", .int 3)])]

def repeatedText : String :=
  "\x7b\"definitions\":\x7b\"a/b\":\x7b\"enum\":[\"x\",\"x\"],\"type\":\"y\"\x7d\x7d\x7d"

/-- An enumeration with a value that is given twice, and with a type that is none. -/
def repeated : Json :=
  .object [("definitions", .object [
    ("a/b", .object [("enum", .array [.string "x", .string "x"]), ("type", .string "y")])])]

/-- Of two faults in one schema the first that is looked for is reported, with the pointer of the
schema. -/
theorem accepted_states :
    (Json.read statesText = .ok states ∧ (∃ g, Graph.ofJson states = .ok g) ∧
      WellFormedAt states ["items"]) ∧
    Json.read repeatedText = .ok repeated ∧
      Graph.ofJson repeated = .error (.invalidSchema "/definitions/a~1b" (.unknownType "y")) ∧
      ¬ WellFormedAt repeated ["definitions", "a/b"] := by
  have hstates : Json.read statesText = .ok states := by cbv
  have hrepeated : Json.read repeatedText = .ok repeated := by cbv
  have hgraph : ∃ g, Graph.ofJson states = .ok g := ⟨_, rfl⟩
  have herror : Graph.ofJson repeated =
      .error (.invalidSchema "/definitions/a~1b" (.unknownType "y")) := by cbv
  obtain ⟨haccepted, -, -⟩ := accepted_iff_well_formed (Json.distinct_of_read hstates)
  obtain ⟨-, -, hblamed⟩ := accepted_iff_well_formed (Json.distinct_of_read hrepeated)
  refine ⟨⟨hstates, hgraph, haccepted.mp hgraph _ (.items .root rfl rfl (by simp))⟩, hrepeated,
    herror, ?_⟩
  obtain ⟨p, -, hill, hfault⟩ := hblamed _ herror
  obtain ⟨fault, he⟩ : ∃ fault, Error.invalidSchema "/definitions/a~1b" (.unknownType "y") =
      .invalidSchema p.text fault := by
    rcases hfault with h | ⟨_, _, _, _, _, _, he⟩
    · exact h
    · cases he
  have hp : p.text = Pointer.text ["definitions", "a/b"] := by
    rw [← (Error.invalidSchema.inj he).1]
    decide
  rwa [Pointer.text_inj.mp hp] at hill

end SchemaModel
