import SchemaModel.Proofs.Source.FileNames
import SchemaModel.Proofs.Walk.Spelling

/-!
# The characters of names in source files

The names of types, properties and members start with a letter or digit of some script, which is an
upper case letter if it is ASCII, and go on with letters and digits as far as they are ASCII. A
number or `Item` behind a name changes nothing about that. Fields and modules, which are made of
such names, start with a letter or with `_` in front of more, and may hold `_`.

* `capitalParts_typeName`, `capitalParts_memberName`   names of types, properties and members;
* `capitalParts_of_mem_numbered`                       they stay so when they are numbered;
* `wordParts_plain_fieldName`                          identifiers of fields and modules;
* `wordParts_plain_of_mem_moduleNames`                 modules, numbered or not;
* `capitalParts_of_class`, `capitalParts_of_enum`       all names in a model of a run.
-/

namespace SchemaModel

namespace Text

/-! ## two forms of names -/

/-- a letter or digit in front, no lower case letter or digit of ASCII, and letters or digits behind
it as far as they are ASCII -/
def CapitalParts (name : String) : Prop :=
  ∃ c rest, name.toList = c :: rest ∧ isAlphanumeric c = true ∧
    (c.toNat < 128 → c.isUpper = true) ∧ ∀ d ∈ rest, isWordChar d = true

/-- `_` or a character of words -/
def isPartChar (c : Char) : Bool := c = '_' || isWordChar c

/-- a letter in front, or `_` that is not alone, and letters, digits or `_` behind it as far as
they are ASCII -/
def WordParts (name : String) : Prop :=
  ∃ c rest, name.toList = c :: rest ∧
    (c.toNat < 128 → c.isAlpha = true ∨ c = '_' ∧ rest ≠ []) ∧ ∀ d ∈ rest, isPartChar d = true

theorem isPartChar_of_isWordChar {c : Char} (h : isWordChar c = true) : isPartChar c = true := by
  rw [isPartChar, h, Bool.or_true]

theorem CapitalParts.append {name behind : String} (h : CapitalParts name)
    (hb : ∀ d ∈ behind.toList, isWordChar d = true) : CapitalParts (name ++ behind) := by
  obtain ⟨c, rest, hname, halpha, hupper, hrest⟩ := h
  refine ⟨c, rest ++ behind.toList, by rw [String.toList_append, hname]; rfl, halpha, hupper, ?_⟩
  intro d hd
  exact (List.mem_append.mp hd).elim (hrest d) (hb d)

theorem CapitalParts.wordParts {name : String} (h : CapitalParts name) : WordParts name := by
  obtain ⟨c, rest, hname, -, hupper, hrest⟩ := h
  refine ⟨c, rest, hname, fun hascii => .inl ?_, fun d hd => isPartChar_of_isWordChar (hrest d hd)⟩
  show (c.isUpper || c.isLower) = true
  rw [hupper hascii, Bool.true_or]

theorem WordParts.append {name behind : String} (h : WordParts name)
    (hb : ∀ d ∈ behind.toList, isPartChar d = true) : WordParts (name ++ behind) := by
  obtain ⟨c, rest, hname, hfirst, hrest⟩ := h
  refine ⟨c, rest ++ behind.toList, by rw [String.toList_append, hname]; rfl, fun hascii => ?_, ?_⟩
  · exact (hfirst hascii).imp_right fun ⟨hc, hne⟩ => ⟨hc, by simp [hne]⟩
  · intro d hd
    exact (List.mem_append.mp hd).elim (hrest d) (hb d)

theorem WordParts.append_underscore {name : String} (h : WordParts name) :
    WordParts (name ++ "_") :=
  h.append (List.all_eq_true.mp (by decide))

theorem WordParts.isPartChar_of_mem {name : String} (h : WordParts name) {c : Char}
    (hc : c ∈ name.toList) : isPartChar c = true := by
  obtain ⟨first, rest, hname, hfirst, hrest⟩ := h
  rw [hname] at hc
  rcases List.mem_cons.mp hc with rfl | hc
  · by_cases hascii : c.toNat < 128
    · rcases hfirst hascii with halpha | ⟨rfl, -⟩
      · exact isPartChar_of_isWordChar (isWordChar_of_ascii fun _ => by
          rw [Char.isAlphanum, halpha, Bool.true_or])
      · rfl
    · exact isPartChar_of_isWordChar (isWordChar_of_ascii fun h => absurd h hascii)
  · exact hrest c hc

/-! ## names in upper camel case -/

theorem isWordChar_of_mem_toString {n : Nat} {c : Char} (hc : c ∈ (toString n).toList) :
    isWordChar c = true := by
  have hdigit : c.isDigit = true := Nat.isDigit_of_mem_toDigits (by decide) (by decide)
    (Nat.toList_repr ▸ hc)
  exact isWordChar_of_ascii fun _ => by rw [Char.isAlphanum, hdigit, Bool.or_true]

/-- A name in upper camel case, behind an upper case letter when it would be empty or start with a
digit. -/
theorem capitalParts_guarded {mark : Char} (hmark : mark.isUpper = true)
    (halpha : isAlphanumeric mark = true) (s : String) :
    CapitalParts (Naming.guarded mark (upperCamel s)) := by
  unfold Naming.guarded
  split
  · exact ⟨mark, [], by simp, halpha, fun _ => hmark, nofun⟩
  · next c rest hname =>
    split
    · refine ⟨mark, (upperCamel s).toList, by simp, halpha, fun _ => hmark, ?_⟩
      exact fun d hd => mem_upperCamel hd
    · next hdigit =>
      rcases upperCamel_spec s with hnil | ⟨d, others, hcons, hfirst, hhigh⟩
      · rw [hnil] at hname
        cases hname
      · rw [hcons] at hname
        cases hname
        refine ⟨c, rest, hcons, hfirst, fun hascii => ?_, fun e he => ?_⟩
        · have hclass := hhigh hascii
          rw [isHighDigit, Bool.or_eq_true] at hclass
          exact hclass.resolve_right hdigit
        · exact mem_upperCamel (hcons ▸ List.mem_cons_of_mem _ he)

end Text

open Text

namespace Naming

theorem capitalParts_typeName (s : String) : CapitalParts (typeName s) :=
  capitalParts_guarded (by decide) (by decide) s

theorem capitalParts_memberName (s : String) : CapitalParts (memberName s) :=
  capitalParts_guarded (by decide) (by decide) s

theorem mem_numberedFrom {all before names : List String} {m : String}
    (h : m ∈ numberedFrom all before names) :
    ∃ name ∈ names, m = name ∨ ∃ n : Nat, m = name ++ toString n := by
  induction names generalizing before with
  | nil => cases h
  | cons name rest ih =>
    rcases List.mem_cons.mp h with rfl | h
    · refine ⟨name, List.mem_cons_self, ?_⟩
      split
      · exact .inr ⟨_, rfl⟩
      · exact .inl rfl
    · obtain ⟨other, ho, hm⟩ := ih h
      exact ⟨other, List.mem_cons_of_mem _ ho, hm⟩

theorem capitalParts_of_mem_numbered {names : List String} (h : ∀ name ∈ names, CapitalParts name)
    {m : String} (hm : m ∈ numbered names) : CapitalParts m := by
  obtain ⟨name, hname, rfl | ⟨n, rfl⟩⟩ := mem_numberedFrom hm
  · exact h m hname
  · exact (h name hname).append fun d hd => isWordChar_of_mem_toString hd

/-! ## names in snake case -/

/-- The name of a field or module, before anything is done about keywords. -/
theorem wordParts_guarded {name : String} (h : CapitalParts name) :
    WordParts (guarded '_' (snake name)) := by
  obtain ⟨first, others, hname, halpha, -⟩ := h
  obtain ⟨c, rest, hsnake, hlow⟩ := snake_spec (hname ▸ List.mem_cons_self) halpha
  have hchar : ∀ d ∈ (snake name).toList, isPartChar d = true := fun d hd => by
    rcases mem_snake hd with rfl | hword
    · rfl
    · exact isPartChar_of_isWordChar hword
  unfold guarded
  split
  · next hnil =>
    rw [hsnake] at hnil
    cases hnil
  · next d more hcons =>
    rw [hsnake] at hcons
    cases hcons
    split
    · exact ⟨'_', (snake name).toList, by simp, fun _ => .inr ⟨rfl, by simp [hsnake]⟩, hchar⟩
    · next hdigit =>
      refine ⟨c, rest, hsnake, fun hascii => .inl ?_, fun d hd => ?_⟩
      · have hclass := hlow hascii
        rw [isLowDigit, Bool.or_eq_true] at hclass
        show (c.isUpper || c.isLower) = true
        rw [hclass.resolve_right hdigit, Bool.or_true]
      · exact hchar d (hsnake ▸ List.mem_cons_of_mem _ hd)

/-- Beside the characters of names an identifier holds the `#` of raw identifiers at most. -/
theorem mem_fieldName {name : String} (h : CapitalParts name) {c : Char}
    (hc : c ∈ (fieldName name).toList) : isPartChar c = true ∨ c = '#' := by
  have hword := wordParts_guarded h
  unfold fieldName at hc
  dsimp only at hc
  split at hc
  · exact .inl (hword.append_underscore.isPartChar_of_mem hc)
  · split at hc
    · rw [String.toList_append, List.mem_append] at hc
      rcases hc with hc | hc
      · have hraw : c = 'r' ∨ c = '#' := by simpa using hc
        exact hraw.imp_left fun he => by rw [he]; rfl
      · exact .inl (hword.isPartChar_of_mem hc)
    · exact .inl (hword.isPartChar_of_mem hc)

theorem wordParts_plain_fieldName {name : String} (h : CapitalParts name) :
    WordParts (plain (fieldName name)) := by
  rcases plain_fieldName name with he | he
  · rw [he]
    exact wordParts_guarded h
  · rw [he]
    exact (wordParts_guarded h).append_underscore

end Naming

namespace Source

open Naming

theorem wordParts_numberedModule {name : String} (h : CapitalParts name) (n : Nat) :
    WordParts (numberedModule (fieldName name) n) := by
  have hnamed : WordParts (plain (fieldName name) ++ "_") :=
    (wordParts_plain_fieldName h).append_underscore
  exact hnamed.append fun d hd => isPartChar_of_isWordChar (isWordChar_of_mem_toString hd)

theorem wordParts_plain_of_mem_moduleNames {names : List String}
    (h : ∀ name ∈ names, CapitalParts name) {m : String} (hm : m ∈ moduleNames names) :
    WordParts (plain m) := by
  obtain ⟨name, hname, he | ⟨n, he⟩⟩ := exists_of_mem_moduleNamesFrom hm
  · rw [he]
    exact wordParts_plain_fieldName (h name hname)
  · rw [he, plain_of_unmarked (unmarked_numberedModule (isIdentifier_fieldName name) n)]
    exact wordParts_numberedModule (h name hname) n

/-- Beside the characters of names a module holds the `#` of raw identifiers at most. -/
theorem mem_module {names : List String} (h : ∀ name ∈ names, CapitalParts name) {m : String}
    (hm : m ∈ moduleNames names) {c : Char} (hc : c ∈ m.toList) :
    isPartChar c = true ∨ c = '#' := by
  obtain ⟨name, hname, he | ⟨n, he⟩⟩ := exists_of_mem_moduleNamesFrom hm
  · exact mem_fieldName (h name hname) (he ▸ hc)
  · rw [he] at hc
    exact .inl ((wordParts_numberedModule (h name hname) n).isPartChar_of_mem hc)

end Source

/-! ## the names of a model -/

/-- the identifiers of the fields of a class -/
def ClassModel.fields (c : ClassModel) : List String :=
  c.properties.map fun p => Naming.fieldName p.name

/-- the identifiers of the variants of an enumeration -/
def EnumModel.variants (e : EnumModel) : List String := e.members.map EnumMember.name

theorem IsTypeName.capitalParts {name : String} (h : IsTypeName name) : CapitalParts name := by
  induction h with
  | ofText s => exact Naming.capitalParts_typeName s
  | item _ ih => exact ih.append (List.all_eq_true.mp (by decide))

theorem capitalParts_propertyName (hints : Hints) (className jsonName : String) :
    CapitalParts (propertyName hints className jsonName) := by
  unfold propertyName
  dsimp only
  split
  · exact Naming.capitalParts_typeName _
  · exact Naming.capitalParts_typeName _

/-- All names in a class: its own and those of its properties. -/
theorem capitalParts_of_class {hints : Hints} {c : ClassModel} (h : Spelled hints (.ofClass c)) :
    CapitalParts c.name ∧ ∀ p ∈ c.properties, CapitalParts p.name := by
  cases h with
  | ofClass hname hproperties =>
    refine ⟨hname.capitalParts, fun p hp => ?_⟩
    have hmem : p.name ∈ c.properties.map Property.name := List.mem_map_of_mem hp
    rw [hproperties] at hmem
    refine Naming.capitalParts_of_mem_numbered (fun name hname => ?_) hmem
    obtain ⟨q, -, rfl⟩ := List.mem_map.mp hname
    exact capitalParts_propertyName hints c.name q.jsonName

/-- All names in an enumeration: its own and those of its members. -/
theorem capitalParts_of_enum {hints : Hints} {e : EnumModel} (h : Spelled hints (.ofEnum e)) :
    CapitalParts e.name ∧ ∀ m ∈ e.members, CapitalParts m.name := by
  have htype := h.isTypeName
  cases h with
  | ofEnum _ hmembers =>
    refine ⟨htype.capitalParts, fun m hm => ?_⟩
    obtain ⟨texts, htexts⟩ := hmembers
    have hmem : m.name ∈ e.members.map EnumMember.name := List.mem_map_of_mem hm
    rw [htexts] at hmem
    refine Naming.capitalParts_of_mem_numbered (fun name hname => ?_) hmem
    obtain ⟨text, -, rfl⟩ := List.mem_map.mp hname
    exact Naming.capitalParts_memberName text

/-- All names of models. -/
theorem capitalParts_of_models {r : Run} {models : ModelSet} (h : r.models = .ok models) :
    ∀ name ∈ models.map Model.name, CapitalParts name := by
  intro name hname
  obtain ⟨m, hm, rfl⟩ := List.mem_map.mp hname
  exact (Run.spelled_of_models h hm).isTypeName.capitalParts

end SchemaModel
