import Mathlib
import SchemaModel.Hint.Reader
import SchemaModel.Proofs.Json.Fields
import SchemaModel.Proofs.Text.Blank

/-!
# Hint records

Which objects record a hint, and which hint. The text under `$type` is cut in three steps: in front
of a comma, inside the white space, behind the last point. What is left names the variant. The
other fields are those of the variant: of an enumeration each may be absent or null, a name must be
there and be a text. The reader takes `$type` out before it looks at them, which moves a field; a
record says nothing about the order of its fields.

* `variantName_eq_iff`   the variant that a text names;
* `readEnum_eq_ok_iff`   the fields of an enumeration;
* `readName_eq_ok_iff`   the one field of a name;
* `read_eq_ok_iff`       a record is read exactly if it records a hint.
-/

namespace SchemaModel.Hint

open Json Text

/-- A text names a variant. In front of the first comma and inside the white space, the variant
stands alone or behind a qualifier, which ends in a point. -/
inductive NamesVariant (s v : String) : Prop
  | intro (left qualifier right behind : List Char)
      (parts : s.toList = left ++ (qualifier ++ v.toList) ++ right ++ behind)
      (comma : ',' ∉ left ++ (qualifier ++ v.toList) ++ right)
      (cut : ∀ c, behind.head? = some c → c = ',')
      (blank : ∀ c ∈ left ++ right, isBlank c)
      (first : ∀ c, (qualifier ++ v.toList).head? = some c → isBlank c = false)
      (last : ∀ c, (qualifier ++ v.toList).getLast? = some c → isBlank c = false)
      (point : '.' ∉ v.toList)
      (qualified : ∀ c, qualifier.getLast? = some c → c = '.')

/-- The fields of a record of a variant. -/
structure IsRecord (variant : String) (allowed : List String) (fields : List (String × Json)) :
    Prop where
  variant : ∃ s, fields.lookup "$type" = some (.string s) ∧ NamesVariant s variant
  allowed : ∀ field ∈ fields, field.1 = "$type" ∨ field.1 ∈ allowed

/-- A value records a hint. -/
inductive RecordedIn : Json → Hint → Prop
  | enumeration {fields : List (String × Json)} {hint : EnumHint}
      (hr : IsRecord "EnumHint" enumFields fields)
      (typeName : valueAt? "typeName" fields = hint.typeName.map .string)
      (description : valueAt? "description" fields = hint.description.map .string)
      (members : valueAt? "enum" fields = hint.members.map fun ss => .array (ss.map .string))
      (zeroValue : valueAt? "zeroValue" fields = hint.zeroValue.map .string) :
      RecordedIn (.object fields) (.enumeration hint)
  | className {fields : List (String × Json)} {name : String}
      (hr : IsRecord "ClassNameHint" ["typeName"] fields)
      (hn : fields.lookup "typeName" = some (.string name)) :
      RecordedIn (.object fields) (.className name)
  | propertyName {fields : List (String × Json)} {name : String}
      (hr : IsRecord "PropertyNameHint" ["propertyName"] fields)
      (hn : fields.lookup "propertyName" = some (.string name)) :
      RecordedIn (.object fields) (.propertyName name)

/-! ## the name of a variant -/

/-- A list is cut in front of the first place of an element. -/
theorem takeWhile_ne_iff {l front behind : List Char} {a : Char} :
    l.takeWhile (· ≠ a) = front ∧ l.dropWhile (· ≠ a) = behind ↔
      l = front ++ behind ∧ a ∉ front ∧ ∀ c, behind.head? = some c → c = a := by
  simp [takeWhile_dropWhile_iff, List.forall_mem_ne']

/-- A list is cut behind the last place of an element. -/
theorem takeWhile_ne_reverse_iff {l front behind : List Char} {a : Char} :
    (l.reverse.takeWhile (· ≠ a)).reverse = behind ∧
      (l.reverse.dropWhile (· ≠ a)).reverse = front ↔
      l = front ++ behind ∧ a ∉ behind ∧ ∀ c, front.getLast? = some c → c = a := by
  simp [takeWhile_reverse_iff, List.forall_mem_ne']

/-- The variant that a text names. -/
theorem variantName_eq_iff {s v : String} : variantName s = v ↔ NamesVariant s v := by
  rw [variantName, ← String.toList_inj, String.toList_ofList]
  constructor
  · intro hv
    obtain ⟨hs, hcomma, hcut⟩ :=
      takeWhile_ne_iff.mp ⟨(rfl : s.toList.takeWhile (· ≠ ',') = _), rfl⟩
    obtain ⟨left, right, hname, hblank, hfirst, hlast⟩ :=
      trimList_eq_iff.mp (rfl : trimList (s.toList.takeWhile (· ≠ ',')) = _)
    obtain ⟨hqualifier, hpoint, hqualified⟩ := takeWhile_ne_reverse_iff.mp ⟨hv, rfl⟩
    rw [hqualifier] at hname hfirst hlast
    rw [hname] at hs hcomma
    exact ⟨left, _, right, _, hs, hcomma, hcut, hblank, hfirst, hlast, hpoint, hqualified⟩
  · rintro ⟨left, qualifier, right, behind, hparts, hcomma, hcut, hblank, hfirst, hlast, hpoint,
      hqualified⟩
    obtain ⟨hname, -⟩ := takeWhile_ne_iff.mpr ⟨hparts, hcomma, hcut⟩
    have htrimmed := trimList_eq_iff.mpr ⟨left, right, rfl, hblank, hfirst, hlast⟩
    rw [hname, htrimmed]
    exact (takeWhile_ne_reverse_iff.mpr ⟨rfl, hpoint, hqualified⟩).1

/-! ## the fields of a variant -/

section
variable {fields : List (String × Json)}

theorem enumFault?_eq_none_iff {key : String} {j : Json} : enumFault? (key, j) = none ↔
    key ∈ enumFields ∧ (j = .null ∨
      (key ∈ ["typeName", "description", "zeroValue"] → j.IsText) ∧
        (key = "enum" → j.IsTexts)) := by
  unfold enumFault?
  split
  case h_5 => simp_all [enumFields]
  all_goals
    next hkey =>
    cases hkey
    simp [faultOf_optional_eq_none_iff, enumFields, asText_ok_iff, asTexts_ok_iff]

theorem findSome?_enumFault?_eq_none_iff (hk : (fields.map Prod.fst).Nodup) :
    fields.findSome? enumFault? = none ↔ (∀ field ∈ fields, field.1 ∈ enumFields) ∧
      (∀ key ∈ ["typeName", "description", "zeroValue"], ∀ j,
        valueAt? key fields = some j → j.IsText) ∧
      ∀ j, valueAt? "enum" fields = some j → j.IsTexts := by
  have hfield {key : String} {j : Json} (h : valueAt? key fields = some j) :
      (key, j) ∈ fields ∧ j ≠ .null :=
    (valueAt?_eq_some_iff.mp h).imp_left (lookup_eq_some_iff_mem hk).mp
  rw [List.findSome?_eq_none_iff]
  constructor
  · intro h
    refine ⟨fun field hf => (enumFault?_eq_none_iff.mp (h field hf)).1,
      fun key hkey j hj => ?_, fun j hj => ?_⟩
    · obtain ⟨hf, hn⟩ := hfield hj
      exact ((enumFault?_eq_none_iff.mp (h _ hf)).2.resolve_left hn).1 hkey
    · obtain ⟨hf, hn⟩ := hfield hj
      exact ((enumFault?_eq_none_iff.mp (h _ hf)).2.resolve_left hn).2 rfl
  · rintro ⟨hallowed, htext, htexts⟩ ⟨key, j⟩ hf
    rw [enumFault?_eq_none_iff, or_iff_not_imp_left]
    refine ⟨hallowed _ hf, fun hn => ?_⟩
    have hj := valueAt?_eq_some_iff.mpr ⟨(lookup_eq_some_iff_mem hk).mpr hf, hn⟩
    exact ⟨fun hkey => htext key hkey j hj, fun hkey => htexts j (hkey ▸ hj)⟩

/-- The fields of an enumeration. -/
theorem readEnum_eq_ok_iff (hk : (fields.map Prod.fst).Nodup) {hint : EnumHint} :
    readEnum fields = .ok hint ↔ (∀ field ∈ fields, field.1 ∈ enumFields) ∧
      valueAt? "typeName" fields = hint.typeName.map .string ∧
      valueAt? "description" fields = hint.description.map .string ∧
      valueAt? "enum" fields = hint.members.map (fun ss => .array (ss.map .string)) ∧
      valueAt? "zeroValue" fields = hint.zeroValue.map .string := by
  have hread : readEnum fields = .ok hint ↔ fields.findSome? enumFault? = none ∧
      textAt? "typeName" fields = hint.typeName ∧
      textAt? "description" fields = hint.description ∧
      textsAt? "enum" fields = hint.members ∧ textAt? "zeroValue" fields = hint.zeroValue := by
    unfold readEnum
    cases hint
    cases fields.findSome? enumFault? <;> simp
  rw [hread, findSome?_enumFault?_eq_none_iff hk, valueAt?_eq_text_iff, valueAt?_eq_text_iff,
    valueAt?_eq_text_iff, valueAt?_eq_texts_iff]
  simp only [List.forall_mem_cons, List.not_mem_nil, false_imp_iff, implies_true, and_true]
  tauto

theorem nameFault?_eq_none_iff {name key : String} {j : Json} :
    nameFault? name (key, j) = none ↔ key = name ∧ j.IsText := by
  unfold nameFault?
  dsimp only
  split
  · next hkey => simp [hkey, faultOf_eq_none_iff, asText_ok_iff]
  · next hkey => simp [hkey]

/-- The one field of a name. -/
theorem readName_eq_ok_iff (hk : (fields.map Prod.fst).Nodup) {name s : String} :
    readName name fields = .ok s ↔
      (∀ field ∈ fields, field.1 = name) ∧ fields.lookup name = some (.string s) := by
  have htext : textAt? name fields = some s ↔ fields.lookup name = some (.string s) := by
    rw [textAt?_eq_some_iff, valueAt?_eq_some_iff]
    simp
  rw [readName, ← htext]
  cases hfault : fields.findSome? (nameFault? name) with
  | none =>
    have hall (field) (hf : field ∈ fields) : field.1 = name :=
      (nameFault?_eq_none_iff.mp (List.findSome?_eq_none_iff.mp hfault field hf)).1
    cases textAt? name fields with
    | none => simp
    | some t => simpa using fun _ key j hf => hall (key, j) hf
  | some fault =>
    refine iff_of_false nofun ?_
    rintro ⟨hall, hs⟩
    obtain ⟨⟨key, j⟩, hf, hfound⟩ := List.exists_of_findSome?_eq_some hfault
    cases (hall _ hf : key = name)
    have hj := ((lookup_eq_some_iff_mem hk).mpr hf).symm.trans (htext.mp hs)
    cases hj
    cases hfound.symm.trans (nameFault?_eq_none_iff.mpr ⟨rfl, s, rfl⟩)

end

/-! ## records -/

/-- The fields of a record, once its variant is taken out. -/
theorem isRecord_iff {fields : List (String × Json)} {variant s : String} {allowed : List String}
    (hk : (fields.map Prod.fst).Nodup) (hs : fields.lookup "$type" = some (.string s)) :
    IsRecord variant allowed fields ↔ variantName s = variant ∧
      ∀ field ∈ takeField "$type" fields, field.1 ∈ allowed := by
  have hm := mem_keys_of_lookup hs
  rw [variantName_eq_iff]
  constructor
  · rintro ⟨⟨s', hs', hv⟩, hallowed⟩
    cases hs.symm.trans hs'
    refine ⟨hv, fun field hf => ?_⟩
    obtain ⟨hf, hne⟩ := (mem_takeField hk hm).mp hf
    exact (hallowed field hf).resolve_left hne
  · rintro ⟨hv, hallowed⟩
    refine ⟨⟨s, hs, hv⟩, fun field hf => or_iff_not_imp_left.mpr fun hne => ?_⟩
    exact hallowed field ((mem_takeField hk hm).mpr ⟨hf, hne⟩)

section
variable {fields : List (String × Json)} {s : String}

theorem recordedIn_enumeration_iff (hk : (fields.map Prod.fst).Nodup)
    (hs : fields.lookup "$type" = some (.string s)) {hint : EnumHint} :
    RecordedIn (.object fields) (.enumeration hint) ↔
      variantName s = "EnumHint" ∧ readEnum (takeField "$type" fields) = .ok hint := by
  have hm := mem_keys_of_lookup hs
  rw [readEnum_eq_ok_iff (nodup_keys_takeField hk hm), valueAt?_takeField hk hm (by decide),
    valueAt?_takeField hk hm (by decide), valueAt?_takeField hk hm (by decide),
    valueAt?_takeField hk hm (by decide), ← and_assoc, ← isRecord_iff hk hs]
  constructor
  · rintro ⟨hr, typeName, description, members, zeroValue⟩
    exact ⟨hr, typeName, description, members, zeroValue⟩
  · rintro ⟨hr, typeName, description, members, zeroValue⟩
    exact .enumeration hr typeName description members zeroValue

/-- The fields of a record with one text. -/
theorem isRecord_name_iff (hk : (fields.map Prod.fst).Nodup)
    (hs : fields.lookup "$type" = some (.string s)) {variant field name : String}
    (hne : field ≠ "$type") :
    IsRecord variant [field] fields ∧ fields.lookup field = some (.string name) ↔
      variantName s = variant ∧ readName field (takeField "$type" fields) = .ok name := by
  have hm := mem_keys_of_lookup hs
  rw [readName_eq_ok_iff (nodup_keys_takeField hk hm), lookup_takeField hk hm hne,
    isRecord_iff hk hs, and_assoc]
  simp only [List.mem_singleton]

end

/-- A record is read exactly if it records a hint. -/
theorem read_eq_ok_iff {j : Json} (hd : j.Distinct) {hint : Hint} :
    read j = .ok hint ↔ RecordedIn j hint := by
  constructor
  · intro h
    unfold read at h
    split at h
    · next fields =>
      have hk := hd.nodup_keys
      split at h
      · cases h
      · next s hs =>
        dsimp only at h
        split at h
        · next hv =>
          obtain ⟨hint, hread, rfl⟩ := map_eq_ok_iff.mp h
          exact (recordedIn_enumeration_iff hk hs).mpr ⟨hv, hread⟩
        · next hv =>
          obtain ⟨name, hread, rfl⟩ := map_eq_ok_iff.mp h
          obtain ⟨hr, hn⟩ := (isRecord_name_iff hk hs (by decide)).mpr ⟨hv, hread⟩
          exact .className hr hn
        · next hv =>
          obtain ⟨name, hread, rfl⟩ := map_eq_ok_iff.mp h
          obtain ⟨hr, hn⟩ := (isRecord_name_iff hk hs (by decide)).mpr ⟨hv, hread⟩
          exact .propertyName hr hn
        · cases h
      · cases h
    · cases h
  · intro h
    have hread := h
    cases h with
    | enumeration hr =>
      obtain ⟨s, hs, -⟩ := hr.variant
      obtain ⟨hv, hread⟩ := (recordedIn_enumeration_iff hd.nodup_keys hs).mp hread
      simp only [read, hs, hv, hread]
      rfl
    | className hr hn =>
      obtain ⟨s, hs, -⟩ := hr.variant
      obtain ⟨hv, hread⟩ := (isRecord_name_iff hd.nodup_keys hs (by decide)).mp ⟨hr, hn⟩
      simp only [read, hs, hv, hread]
      rfl
    | propertyName hr hn =>
      obtain ⟨s, hs, -⟩ := hr.variant
      obtain ⟨hv, hread⟩ := (isRecord_name_iff hd.nodup_keys hs (by decide)).mp ⟨hr, hn⟩
      simp only [read, hs, hv, hread]
      rfl

end SchemaModel.Hint
