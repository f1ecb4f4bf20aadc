import Mathlib
import SchemaModel.Proofs.Source.Fields
import SchemaModel.Proofs.Text.IdentifierTable

/-!
# Legal identifiers

What Rust 2024 takes for an identifier: a word that is no keyword and not reserved, or one behind
`r#`. A word starts with a letter, or with `_` in front of more.

The identifiers of a model set are always legal as far as they are ASCII, with a few exceptions:
words that Rust has reserved and that are not escaped in fields and modules, and `Self`, which is
not escaped in types and variants. Beyond ASCII, whatever Unicode calls alphabetic or a number gets
into a name, and a number of any script but ASCII may stand at its start.

* `isWord_iff`                which names are words, up to characters beyond ASCII;
* `mem_keywords_iff_of_capital`, `mem_keywords_iff_of_not_mem`   which keywords names may be;
* `isLegal_iff_of_declared`   which identifiers of a run are legal.
-/

namespace SchemaModel.Source

open Text
open Naming (plain fieldName keywords pathKeywords)

/-! ## identifiers of Rust -/

def strictKeywords : List String := [
  "as", "async", "await", "break", "const", "continue", "crate", "dyn", "else", "enum", "extern",
  "false", "fn", "for", "if", "impl", "in", "let", "loop", "match", "mod", "move", "mut", "pub",
  "ref", "return", "self", "Self", "static", "struct", "super", "trait", "true", "type", "unsafe",
  "use", "where", "while"]

def reservedWords : List String := [
  "abstract", "become", "box", "do", "final", "gen", "macro", "override", "priv", "try", "typeof",
  "unsized", "virtual", "yield"]

/-- An identifier may start with the character. -/
def startsWord (c : Char) : Bool :=
  if c.toNat < 128 then c.isAlpha else IdentifierTable.starts.any (inInterval c.toNat)

/-- The character may stand in an identifier behind its start. -/
def continuesWord (c : Char) : Bool :=
  if c.toNat < 128 then c.isAlphanum || c = '_'
  else IdentifierTable.continues.any (inInterval c.toNat)

def isWord : List Char → Bool
  | [] => false
  | c :: rest => (startsWord c || c = '_' && !rest.isEmpty) && rest.all continuesWord

/-- An identifier, raw or not. The keywords of paths are never raw. -/
def isLegal (name : String) : Bool :=
  match name.toList with
  | 'r' :: '#' :: word => isWord word && String.ofList word ∉ pathKeywords
  | word => isWord word && name ∉ strictKeywords ++ reservedWords

/-- the words that are not escaped although they are keywords or reserved -/
def missedWords : List String := [
  "Self", "abstract", "become", "box", "do", "final", "macro", "override", "priv", "try", "typeof",
  "unsized", "virtual"]

/-- The characters beyond ASCII may stand where they are. -/
def ForeignFit (name : String) : Prop :=
  (∀ c ∈ name.toList.head?, 128 ≤ c.toNat → startsWord c = true) ∧
    ∀ c ∈ name.toList.tail, 128 ≤ c.toNat → continuesWord c = true

instance : DecidablePred ForeignFit := fun name =>
  decidable_of_iff ((name.toList.head?.all fun c => c.toNat < 128 || startsWord c) = true ∧
    (name.toList.tail.all fun c => c.toNat < 128 || continuesWord c) = true) (by
      simp only [ForeignFit, Option.mem_def, Option.all_eq_true, List.all_eq_true, Bool.or_eq_true,
        decide_eq_true_eq, ← Nat.not_le, ← imp_iff_not_or])

/-! ## words -/

theorem continuesWord_of_ascii {c : Char} (hascii : c.toNat < 128) (h : isPartChar c = true) :
    continuesWord c = true := by
  have hnot : ¬ 128 ≤ c.toNat := by omega
  rw [isPartChar, isWordChar, decide_eq_false hnot, Bool.false_or] at h
  rw [continuesWord, if_pos hascii, Bool.or_comm]
  exact h

/-- A name of the given form is a word up to its characters beyond ASCII. -/
theorem isWord_iff {name : String} (h : WordParts name) :
    isWord name.toList = true ↔ ForeignFit name := by
  obtain ⟨c, rest, hname, hfirst, hrest⟩ := h
  rw [ForeignFit, hname, isWord, Bool.and_eq_true, List.all_eq_true, List.head?_cons,
    List.tail_cons]
  have hstart : (startsWord c || c = '_' && !rest.isEmpty) = true ↔
      ∀ d ∈ some c, 128 ≤ d.toNat → startsWord d = true := by
    by_cases hascii : c.toNat < 128
    · have hleft : (startsWord c || c = '_' && !rest.isEmpty) = true := by
        rcases hfirst hascii with halpha | ⟨rfl, hne⟩
        · rw [startsWord, if_pos hascii, halpha, Bool.true_or]
        · simp [hne]
      refine iff_of_true hleft fun d hd hforeign => ?_
      cases hd
      omega
    · have hunder : c ≠ '_' := by
        rintro rfl
        exact hascii (by decide)
      simp [hunder, Nat.le_of_not_lt hascii]
  have hbehind : (∀ d ∈ rest, continuesWord d = true) ↔
      ∀ d ∈ rest, 128 ≤ d.toNat → continuesWord d = true := by
    refine ⟨fun hall d hd _ => hall d hd, fun hall d hd => ?_⟩
    by_cases hascii : d.toNat < 128
    · exact continuesWord_of_ascii hascii (hrest d hd)
    · exact hall d hd (Nat.le_of_not_lt hascii)
  rw [hstart, hbehind]

/-- A name of the given form is legal if it is no keyword, up to its characters beyond ASCII. -/
theorem isLegal_iff {name : String} (h : WordParts name)
    (hk : name ∈ strictKeywords ++ reservedWords ↔ name ∈ missedWords) :
    isLegal name = true ↔ name ∉ missedWords ∧ ForeignFit name := by
  have hplain : isLegal name = (isWord name.toList && name ∉ strictKeywords ++ reservedWords) := by
    unfold isLegal
    split
    · next word hraw =>
      have hhash : isPartChar '#' = true := h.isPartChar_of_mem (by rw [hraw]; simp)
      exact absurd hhash (by decide)
    · rfl
  rw [hplain, Bool.and_eq_true, decide_eq_true_eq, isWord_iff h, hk, and_comm]

/-! ## keywords -/

/-- In upper camel case the only keyword is `Self`. -/
theorem mem_keywords_iff_of_capital {name : String} (h : CapitalParts name) :
    name ∈ strictKeywords ++ reservedWords ↔ name ∈ missedWords := by
  obtain ⟨c, rest, hname, -, hupper, -⟩ := h
  have hhead : name.toList.head? = some c := by rw [hname]; rfl
  have hcase : ∀ k ∈ strictKeywords ++ reservedWords ++ missedWords,
      (k.toList.head?.all fun d => d.toNat < 128 && !d.isUpper) = true ∨
        k ∈ strictKeywords ++ reservedWords ∧ k ∈ missedWords := by decide
  have hboth (hk : name ∈ strictKeywords ++ reservedWords ++ missedWords) :
      name ∈ strictKeywords ++ reservedWords ∧ name ∈ missedWords := by
    refine (hcase name hk).resolve_left fun hlower => ?_
    rw [hhead, Option.all_some, Bool.and_eq_true, decide_eq_true_eq] at hlower
    obtain ⟨hascii, hnot⟩ := hlower
    rw [hupper hascii] at hnot
    cases hnot
  exact ⟨fun hk => (hboth (List.mem_append_left _ hk)).2,
    fun hk => (hboth (List.mem_append_right _ hk)).1⟩

/-- Besides the keywords that are escaped, only the words that are missed are keywords. -/
theorem mem_keywords_iff_of_not_mem {name : String} (h : name ∉ keywords) :
    name ∈ strictKeywords ++ reservedWords ↔ name ∈ missedWords := by
  have hescaped : ∀ k ∈ strictKeywords ++ reservedWords, k ∈ keywords ∨ k ∈ missedWords := by
    decide
  have hmissed : ∀ k ∈ missedWords, k ∈ strictKeywords ++ reservedWords := by decide
  exact ⟨fun hk => (hescaped name hk).resolve_left h, hmissed name⟩

theorem mem_keywords_iff_of_underscore {name : String} (h : '_' ∈ name.toList) :
    name ∈ strictKeywords ++ reservedWords ↔ name ∈ missedWords :=
  mem_keywords_iff_of_not_mem fun hk => Naming.underscore_not_mem_of_mem_keywords hk h

/-! ## identifiers of a model set -/

theorem isLegal_fieldName_iff {name : String} (h : CapitalParts name) :
    isLegal (fieldName name) = true ↔
      fieldName name ∉ missedWords ∧ ForeignFit (fieldName name) := by
  have hword := Naming.wordParts_guarded h
  unfold fieldName
  dsimp only
  split
  · exact isLegal_iff hword.append_underscore (mem_keywords_iff_of_underscore (by simp))
  · next hp =>
    split
    · next hk =>
      have hraw : ∀ k ∈ keywords, k ∉ pathKeywords → isLegal ("r#" ++ k) = true ∧
          "r#" ++ k ∉ missedWords ∧ ForeignFit ("r#" ++ k) := by decide
      obtain ⟨hlegal, hfit⟩ := hraw _ hk hp
      exact iff_of_true hlegal hfit
    · next hk => exact isLegal_iff hword (mem_keywords_iff_of_not_mem hk)

theorem isLegal_module_iff {names : List String} (h : ∀ name ∈ names, CapitalParts name)
    {m : String} (hm : m ∈ moduleNames names) :
    isLegal m = true ↔ m ∉ missedWords ∧ ForeignFit m := by
  obtain ⟨name, hname, he | ⟨n, he⟩⟩ := exists_of_mem_moduleNamesFrom hm
  · rw [he]
    exact isLegal_fieldName_iff (h name hname)
  · rw [he]
    refine isLegal_iff (wordParts_numberedModule (h name hname) n) ?_
    exact mem_keywords_iff_of_underscore (by simp [numberedModule])

theorem isLegal_capital_iff {name : String} (h : CapitalParts name) :
    isLegal name = true ↔ name ∉ missedWords ∧ ForeignFit name :=
  isLegal_iff h.wordParts (mem_keywords_iff_of_capital h)

/-- the identifiers that a model declares: its own name, and fields or variants -/
def declaredBy : Model → List String
  | .ofClass c => c.name :: c.fields
  | .ofEnum e => e.name :: e.variants

/-- the identifiers that the files of a model set declare -/
def declared (models : ModelSet) : List String :=
  moduleNames (models.map Model.name) ++ models.flatMap declaredBy

/-- An identifier that the files of a run declare is legal if and only if it is none of the words
that are missed and its characters beyond ASCII may stand where they are. -/
theorem isLegal_iff_of_declared {r : Run} {models : ModelSet} (h : r.models = .ok models)
    {name : String} (hn : name ∈ declared models) :
    isLegal name = true ↔ name ∉ missedWords ∧ ForeignFit name := by
  have hspelled := fun m (hm : m ∈ models) => Run.spelled_of_models h hm
  rcases List.mem_append.mp hn with hn | hn
  · refine isLegal_module_iff (fun name hname => ?_) hn
    obtain ⟨m, hm, rfl⟩ := List.mem_map.mp hname
    exact (hspelled m hm).isTypeName.capitalParts
  · obtain ⟨m, hm, hn⟩ := List.mem_flatMap.mp hn
    cases m with
    | ofClass c =>
      obtain ⟨hclass, hproperties⟩ := capitalParts_of_class (hspelled _ hm)
      rcases List.mem_cons.mp hn with rfl | hn
      · exact isLegal_capital_iff hclass
      · obtain ⟨p, hp, rfl⟩ := List.mem_map.mp hn
        exact isLegal_fieldName_iff (hproperties p hp)
    | ofEnum e =>
      obtain ⟨henum, hmembers⟩ := capitalParts_of_enum (hspelled _ hm)
      rcases List.mem_cons.mp hn with rfl | hn
      · exact isLegal_capital_iff henum
      · obtain ⟨member, hmem, rfl⟩ := List.mem_map.mp hn
        exact isLegal_capital_iff (hmembers member hmem)

def legalModels : ModelSet := recordModels [("Type", "type"), ("Self", "self"), ("Größe", "größe")]

set_option maxRecDepth 4000 in
/-- A keyword of each kind and a letter beyond ASCII in the keys of a class. -/
theorem legal_of_legalRun : (recordRun ["type", "self", "größe"]).models = .ok legalModels ∧
    declared legalModels = ["record", "Record", "r#type", "self_", "größe"] ∧
    ∀ name ∈ declared legalModels, isLegal name = true := by
  have hmodels : (recordRun ["type", "self", "größe"]).models = .ok legalModels :=
    Run.models_of_within rfl rfl (by with_unfolding_all rfl)
  have hfit : ∀ name ∈ declared legalModels, name ∉ missedWords ∧ ForeignFit name := by
    decide
  exact ⟨hmodels, by decide,
    fun name hn => (isLegal_iff_of_declared hmodels hn).mpr (hfit name hn)⟩

def illegalSchema : String :=
  "\x7b\"type\": \"object\", \"properties\": \x7b\"do\": \x7b\"type\": \"string\"\x7d, " ++
  "\"٣\": \x7b\"type\": \"string\"\x7d, \"e\": \x7b\"$ref\": \"#/definitions/E\"\x7d\x7d, " ++
  "\"definitions\": \x7b\"E\": \x7b\"enum\": [\"self\"]\x7d\x7d\x7d"

def illegalModels : ModelSet := [
  .ofEnum ⟨"N", "E", none, [⟨"Self", some "self"⟩]⟩,
  .ofClass ⟨"N", "Record", none, [⟨"Do", "do", .string, false, none⟩,
    ⟨"٣", "٣", .string, false, none⟩, ⟨"E", "e", .enumNamed "E", false, none⟩], false⟩]

set_option maxRecDepth 4000 in
/-- A word that is reserved, a digit of another script and a keyword that is a variant. -/
theorem illegal_declared : ModelSet.ofText caseSettings none illegalSchema = .ok illegalModels ∧
    ∀ name ∈ ["do", "٣", "Self"], name ∈ declared illegalModels ∧ isLegal name = false := by
  have hmodels : ModelSet.ofText caseSettings none illegalSchema = .ok illegalModels := by
    unfold ModelSet.ofText Graph.parse Json.read illegalSchema
    simp only [String.toList_append]
    repeat rw [String.toList_ofList]
    cbv
  refine ⟨hmodels, ?_⟩
  decide

end SchemaModel.Source
