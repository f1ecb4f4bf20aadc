import Mathlib
import SchemaModel.Proofs.Hint.Records

/-!
# Hint documents

Which documents are read, what stands under a key then, and where the first offence is otherwise.
A document is an object with a list of records under every key, so there are three kinds of
offence: the document is no object, what stands under a key is no list, or an entry of a list
records no hint. The reader stops at the first one, and everything in front of it is good.

* `readKey_eq_ok_iff`     the hints that are read under a key;
* `forall₂_lookup`        a lookup finds the hints of a key, in the order of its records;
* `size_eq_countP`        a key has hints if its list is not empty;
* `firstOffence_of_error` an error is reported at the first offence;
* `read_of_document`      the three of them, for every text.
-/

namespace SchemaModel.Hints

open Hint

/-- the records in a value -/
def recordsIn : Json → List Json
  | .array records => records
  | _ => []

/-- the records under a key -/
def recordsAt (key : String) (fields : List (String × Json)) : List Json :=
  match fields.lookup key with
  | some j => recordsIn j
  | none => []

/-- The value is a list of records. -/
def IsRecords (j : Json) : Prop :=
  ∃ records, j = .array records ∧ ∀ record ∈ records, ∃ hint, RecordedIn record hint

/-- The first offence in a document is reported under a key. -/
inductive FirstOffence : Json → String → Prop
  | document {j : Json} (hj : ∀ fields, j ≠ .object fields) : FirstOffence j ""
  | list {before after : List (String × Json)} {key : String} {j : Json}
      (hbefore : ∀ field ∈ before, IsRecords field.2) (hj : ∀ records, j ≠ .array records) :
      FirstOffence (.object (before ++ (key, j) :: after)) key
  | record {before after : List (String × Json)} {key : String} {good rest : List Json}
      {record : Json} (hbefore : ∀ field ∈ before, IsRecords field.2)
      (hgood : ∀ record ∈ good, ∃ hint, RecordedIn record hint)
      (hr : ∀ hint, ¬ RecordedIn record hint) :
      FirstOffence (.object (before ++ (key, .array (good ++ record :: rest)) :: after))
        (key ++ "[" ++ toString good.length ++ "]")

/-! ## the hints under one key -/

/-- The hints of the records in a field, with its key. -/
def EntriesOf (field : String × Json) (entries : List (String × Hint)) : Prop :=
  ∃ records, field.2 = .array records ∧
    List.Forall₂ (fun record entry => entry.1 = field.1 ∧ RecordedIn record entry.2)
      records entries

section
variable {key : String} {field : String × Json} {records : List Json}

theorem readRecord_eq_ok_iff {record : Json × Nat} (hd : record.1.Distinct)
    {entry : String × Hint} : readRecord key record = .ok entry ↔
      entry.1 = key ∧ RecordedIn record.1 entry.2 := by
  rw [← read_eq_ok_iff hd, readRecord]
  obtain ⟨key', hint⟩ := entry
  cases Hint.read record.1 <;> simp [eq_comm]

theorem distinct_of_mem_zipIdx (hd : (Json.array records).Distinct) {record : Json × Nat}
    (hr : record ∈ records.zipIdx) : record.1.Distinct := by
  cases hd with
  | array h => exact h _ (List.fst_mem_of_mem_zipIdx hr)

/-- The hints that are read under a key. -/
theorem readKey_eq_ok_iff (hd : field.2.Distinct) {entries : List (String × Hint)} :
    readKey field = .ok entries ↔ EntriesOf field entries := by
  unfold readKey EntriesOf
  split
  · next records hrecords =>
    rw [hrecords] at hd ⊢
    rw [mapM_eq_ok_iff fun record hr entry => readRecord_eq_ok_iff (distinct_of_mem_zipIdx hd hr)]
    simp only [Json.array.injEq, exists_eq_left']
    conv_rhs => rw [← List.zipIdx_map_fst 0 records, List.forall₂_map_left_iff]
  · next hlist =>
    refine iff_of_false nofun ?_
    rintro ⟨records, hrecords, -⟩
    exact hlist records hrecords

theorem readRecord_ok_iff {record : Json × Nat} (hd : record.1.Distinct) :
    (∃ entry, readRecord key record = .ok entry) ↔ ∃ hint, RecordedIn record.1 hint := by
  simp only [readRecord_eq_ok_iff hd]
  exact ⟨fun ⟨entry, _, h⟩ => ⟨entry.2, h⟩, fun ⟨hint, h⟩ => ⟨(key, hint), rfl, h⟩⟩

theorem readKey_ok_iff (hd : field.2.Distinct) :
    (∃ entries, readKey field = .ok entries) ↔ IsRecords field.2 := by
  unfold readKey IsRecords
  split
  · next records hrecords =>
    rw [hrecords] at hd ⊢
    simp only [Json.array.injEq, exists_eq_left']
    rw [mapM_ok_iff]
    conv_rhs => rw [← List.zipIdx_map_fst 0 records, List.forall_mem_map]
    exact forall₂_congr fun record hr => readRecord_ok_iff (distinct_of_mem_zipIdx hd hr)
  · next hlist =>
    refine iff_of_false nofun ?_
    rintro ⟨records, hrecords, -⟩
    exact hlist records hrecords

/-- The error under a key is that of its value, or of the first record that is none. -/
theorem readKey_error (hd : field.2.Distinct) {e : Error} (h : readKey field = .error e) :
    (∃ fault, e = .malformedHints field.1 fault ∧ ∀ records, field.2 ≠ .array records) ∨
    ∃ good record rest fault, field.2 = .array (good ++ record :: rest) ∧
      (∀ record ∈ good, ∃ hint, RecordedIn record hint) ∧ (∀ hint, ¬ RecordedIn record hint) ∧
      e = .malformedHints (field.1 ++ "[" ++ toString good.length ++ "]") fault := by
  unfold readKey at h
  split at h
  · next records hrecords =>
    rw [hrecords] at hd
    obtain ⟨good, ⟨record, i⟩, rest, hsplit, hgood, hrecord⟩ := mapM_error h
    have hmem {r : Json × Nat} (hr : r ∈ good ++ (record, i) :: rest) : r.1.Distinct :=
      distinct_of_mem_zipIdx hd (hsplit ▸ hr)
    have hi : i = good.length := by
      have hat : records.zipIdx[good.length]? = some (record, i) := by
        rw [hsplit]
        simp
      rw [List.getElem?_zipIdx, Option.map_eq_some_iff] at hat
      obtain ⟨_, -, he⟩ := hat
      simpa using (Prod.mk.inj he).2.symm
    have hparts : records = good.map Prod.fst ++ record :: rest.map Prod.fst := by
      rw [← List.zipIdx_map_fst 0 records, hsplit]
      simp
    refine .inr ⟨good.map Prod.fst, record, rest.map Prod.fst, ?_⟩
    unfold readRecord at hrecord
    dsimp only at hrecord
    split at hrecord
    · cases hrecord
    · next fault hread =>
      cases hrecord
      refine ⟨fault, hparts ▸ hrecords, ?_, fun hint hr => ?_, by rw [List.length_map, hi]⟩
      · rw [List.forall_mem_map]
        exact fun r hr => (readRecord_ok_iff (hmem (List.mem_append_left _ hr))).mp (hgood r hr)
      · have hd : record.Distinct := hmem (r := (record, i)) (by simp)
        cases ((read_eq_ok_iff hd).mpr hr).symm.trans hread
  · next hlist =>
    cases h
    exact .inl ⟨_, rfl, hlist⟩

end

/-! ## the hints of a document -/

section
variable {fields : List (String × Json)}

theorem lookup_append (a b : List (String × Hint)) (key : String) :
    lookup ⟨a ++ b⟩ key = lookup ⟨a⟩ key ++ lookup ⟨b⟩ key :=
  List.filterMap_append

theorem mem_keys_iff {hints : Hints} {key : String} : key ∈ hints.keys ↔ hints.lookup key ≠ [] := by
  rw [keys, List.mem_eraseDups, lookup, ne_eq, List.filterMap_eq_nil_iff, List.mem_map]
  simp

/-- The entries of a field are found under its key, and nothing under another. -/
theorem EntriesOf.lookup {field : String × Json} {entries : List (String × Hint)}
    (h : EntriesOf field entries) (key : String) :
    List.Forall₂ RecordedIn (if key = field.1 then recordsIn field.2 else [])
      (Hints.lookup ⟨entries⟩ key) := by
  obtain ⟨records, hrecords, hentries⟩ := h
  rw [hrecords, recordsIn]
  clear hrecords
  split
  · next he =>
    subst he
    induction hentries with
    | nil => exact .nil
    | @cons record entry _ others hentry _ ih =>
      have hfirst : Hints.lookup ⟨entry :: others⟩ field.1 =
          entry.2 :: Hints.lookup ⟨others⟩ field.1 := by
        simp [Hints.lookup, hentry.1]
      rw [hfirst]
      exact .cons hentry.2 ih
  · next he =>
    have hnone : Hints.lookup ⟨entries⟩ key = [] := by
      refine List.filterMap_eq_nil_iff.mpr fun entry hm => if_neg fun hkey => he ?_
      obtain ⟨record, -, hentry, -⟩ := mem_of_forall₂ hentries entry hm
      exact hkey.symm.trans hentry
    rw [hnone]
    exact .nil

theorem recordsAt_of_not_mem {key : String} (h : key ∉ fields.map Prod.fst) :
    recordsAt key fields = [] := by
  unfold recordsAt
  split
  · next hl => exact absurd (Json.mem_keys_of_lookup hl) h
  · rfl

theorem recordsAt_cons {field : String × Json} (hnew : field.1 ∉ fields.map Prod.fst)
    (key : String) : recordsAt key (field :: fields) =
      (if key = field.1 then recordsIn field.2 else []) ++ recordsAt key fields := by
  obtain ⟨k, j⟩ := field
  by_cases he : key = k
  · subst he
    rw [if_pos rfl, recordsAt_of_not_mem hnew, List.append_nil]
    simp [recordsAt]
  · simp [recordsAt, List.lookup_cons, beq_false_of_ne he, he]

theorem recordsAt_ne_nil_iff (hk : (fields.map Prod.fst).Nodup) {key : String} :
    recordsAt key fields ≠ [] ↔ ∃ j, (key, j) ∈ fields ∧ recordsIn j ≠ [] := by
  simp only [← lookup_eq_some_iff_mem hk, recordsAt]
  cases fields.lookup key <;> simp

/-- A lookup finds the hints of a key, in the order of its records. -/
theorem forall₂_lookup {lists : List (List (String × Hint))}
    (h : List.Forall₂ EntriesOf fields lists) (hk : (fields.map Prod.fst).Nodup) (key : String) :
    List.Forall₂ RecordedIn (recordsAt key fields) (lookup ⟨lists.flatten⟩ key) := by
  induction h with
  | nil => exact .nil
  | @cons field entries rest lists hfield _ ih =>
    obtain ⟨hnew, hrest⟩ := List.nodup_cons.mp hk
    rw [List.flatten_cons, lookup_append, recordsAt_cons hnew]
    exact List.rel_append (hfield.lookup key) (ih hrest)

/-- A key has hints if its list is not empty. -/
theorem size_eq_countP {hints : Hints} (hk : (fields.map Prod.fst).Nodup)
    (h : ∀ key, List.Forall₂ RecordedIn (recordsAt key fields) (hints.lookup key)) :
    hints.size = fields.countP fun field => recordsIn field.2 ≠ [] := by
  have hmem (key : String) : key ∈ hints.keys ↔
      key ∈ (fields.filter fun field => recordsIn field.2 ≠ []).map Prod.fst := by
    have hempty : hints.lookup key = [] ↔ recordsAt key fields = [] := by
      rw [← List.length_eq_zero_iff, ← (h key).length_eq, List.length_eq_zero_iff]
    rw [mem_keys_iff, ne_eq, hempty, ← ne_eq, recordsAt_ne_nil_iff hk]
    simp
  -- no key is repeated in either list, so they are of one length
  have hperm := (List.perm_ext_iff_of_nodup (nodup_eraseDups _)
    (hk.sublist (List.filter_sublist.map Prod.fst))).mpr hmem
  rw [size, List.countP_eq_length_filter, ← List.length_map Prod.fst]
  exact hperm.length_eq

end

/-! ## documents -/

section
variable {document : Json} {fields : List (String × Json)}

theorem ofJson_object : ofJson (.object fields) =
    (fun lists => ⟨lists.flatten⟩) <$> fields.mapM readKey := by
  rw [ofJson]
  cases fields.mapM readKey <;> rfl

/-- An object is read exactly if there is a list of records under every key. -/
theorem ofJson_object_ok_iff (hd : (Json.object fields).Distinct) :
    (∃ hints, ofJson (.object fields) = .ok hints) ↔ ∀ field ∈ fields, IsRecords field.2 := by
  have hkeys : ∀ field ∈ fields, (∃ entries, readKey field = .ok entries) ↔ IsRecords field.2 :=
    fun field hf => readKey_ok_iff (hd.of_mem hf)
  simp only [ofJson_object, map_eq_ok_iff]
  rw [← forall₂_congr hkeys, ← mapM_ok_iff]
  exact ⟨fun ⟨_, lists, h, _⟩ => ⟨lists, h⟩, fun ⟨lists, h⟩ => ⟨_, lists, h, rfl⟩⟩

theorem ofJson_ok_iff (hd : document.Distinct) : (∃ hints, ofJson document = .ok hints) ↔
    ∃ fields, document = .object fields ∧ ∀ field ∈ fields, IsRecords field.2 := by
  constructor
  · rintro ⟨hints, h⟩
    cases document with
    | object fields => exact ⟨fields, rfl, (ofJson_object_ok_iff hd).mp ⟨hints, h⟩⟩
    | _ => cases h
  · rintro ⟨fields, rfl, h⟩
    exact (ofJson_object_ok_iff hd).mpr h

theorem forall₂_entries_of_ok (hd : document.Distinct) {hints : Hints}
    (h : ofJson document = .ok hints) : ∃ fields lists, document = .object fields ∧
      List.Forall₂ EntriesOf fields lists ∧ hints = ⟨lists.flatten⟩ := by
  cases document with
  | object fields =>
    rw [ofJson_object] at h
    obtain ⟨lists, hlists, rfl⟩ := map_eq_ok_iff.mp h
    refine ⟨fields, lists, rfl, ?_, rfl⟩
    exact (mapM_eq_ok_iff fun field hf entries => readKey_eq_ok_iff (hd.of_mem hf)).mp hlists
  | _ => cases h

/-- An error is reported at the first offence. -/
theorem firstOffence_of_error (hd : document.Distinct) {e : Error}
    (h : ofJson document = .error e) :
    ∃ key fault, e = .malformedHints key fault ∧ FirstOffence document key := by
  cases document with
  | object fields =>
    rw [ofJson_object, map_eq_error_iff] at h
    obtain ⟨before, ⟨key, j⟩, after, rfl, hbefore, hfield⟩ := mapM_error h
    have hmem : (key, j) ∈ before ++ (key, j) :: after := by simp
    have hgood (field) (hf : field ∈ before) : IsRecords field.2 :=
      (readKey_ok_iff (hd.of_mem (List.mem_append_left _ hf))).mp (hbefore field hf)
    rcases readKey_error (hd.of_mem hmem) hfield with
      ⟨fault, rfl, hlist⟩ | ⟨good, record, rest, fault, hparts, hrecords, hr, rfl⟩
    · exact ⟨key, fault, rfl, .list hgood hlist⟩
    · cases (hparts : j = _)
      exact ⟨_, fault, rfl, .record hgood hrecords hr⟩
  | _ =>
    cases h
    exact ⟨"", _, rfl, .document nofun⟩

/-- A document is read exactly if it is an object with a list of records under every key. Then a
lookup finds what the records of a key record, in their order, and the keys with hints are those
whose list is not empty. Otherwise the error is reported at the first offence. -/
theorem read_of_document {text : String} {document : Json} (h : Json.read text = .ok document) :
    ((∃ hints, read text = .ok hints) ↔
      ∃ fields, document = .object fields ∧ ∀ field ∈ fields, IsRecords field.2) ∧
    (∀ hints, read text = .ok hints → ∃ fields, document = .object fields ∧
      (∀ key, List.Forall₂ RecordedIn (recordsAt key fields) (hints.lookup key)) ∧
      hints.size = fields.countP fun field => recordsIn field.2 ≠ []) ∧
    ∀ e, read text = .error e →
      ∃ key fault, e = .malformedHints key fault ∧ FirstOffence document key := by
  have hd := Json.distinct_of_read h
  have hread : read text = ofJson document := by rw [read, h]
  rw [hread]
  refine ⟨ofJson_ok_iff hd, fun hints hints_ok => ?_, fun e he => firstOffence_of_error hd he⟩
  obtain ⟨fields, lists, rfl, hlists, rfl⟩ := forall₂_entries_of_ok hd hints_ok
  have hlookup := forall₂_lookup hlists hd.nodup_keys
  exact ⟨fields, rfl, hlookup, size_eq_countP hd.nodup_keys hlookup⟩

end

def colorsText : String :=
  "\x7b\"A\":[\x7b\"$type\":\" N.EnumHint ,N\",\"enum\":[\"x\"]\x7d],\"B\":[]\x7d"

/-- An enumeration under a qualified name of its variant, and a key without records. -/
def colors : List (String × Json) := [
  ("A", .array [
    .object [("$type", .string " N.EnumHint ,N"), ("enum", .array [.string "x"])]]),
  ("B", .array [])]

def namelessText : String := "\x7b\"A\":[\x7b\"$type\":\"ClassNameHint\"\x7d],\"B\":0\x7d"

/-- A record that has no name, and a key under which stands no list. -/
def nameless : Json :=
  .object [("A", .array [.object [("$type", .string "ClassNameHint")]]), ("B", .int 0)]

/-- White space and a qualifier around the name of a variant do not matter. Of two offences the
first is reported. -/
theorem read_colors :
    (Json.read colorsText = .ok (.object colors) ∧
      RecordedIn (.object [("$type", .string " N.EnumHint ,N"), ("enum", .array [.string "x"])])
        (.enumeration { members := some ["x"] })) ∧
    Json.read namelessText = .ok nameless ∧ FirstOffence nameless "A[0]" := by
  have hcolors : Json.read colorsText = .ok (.object colors) := by cbv
  have hnameless : Json.read namelessText = .ok nameless := by cbv
  have hread : read colorsText = .ok ⟨[("A", .enumeration { members := some ["x"] })]⟩ := by
    rw [read, hcolors]
    cbv
  have herror : read namelessText =
      .error (.malformedHints "A[0]" (.missingField "typeName")) := by
    rw [read, hnameless]
    cbv
  obtain ⟨-, hfound, -⟩ := read_of_document hcolors
  obtain ⟨-, -, hfault⟩ := read_of_document hnameless
  refine ⟨⟨hcolors, ?_⟩, hnameless, ?_⟩
  · obtain ⟨fields, hfields, hlookup, -⟩ := hfound _ hread
    cases hfields
    cases hlookup "A" with
    | cons hr _ => exact hr
  · obtain ⟨key, fault, he, hfirst⟩ := hfault _ herror
    cases he
    exact hfirst

end SchemaModel.Hints
