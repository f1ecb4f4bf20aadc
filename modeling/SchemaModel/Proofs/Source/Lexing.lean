import SchemaModel.Proofs.Files.Generated
import SchemaModel.Proofs.Source.ByValue
import SchemaModel.Proofs.Source.NameParts
import SchemaModel.Proofs.Walk.Dependencies

/-!
# Source text cut into lines

A value of a document may hold line ends and quotes, and it stands in the source as it is, up to the
marks of `escape`. So whoever reads a source file cuts it where a line ends outside of literals, and
knows a literal by the quotes that are not in a comment. Cut in this way, the text of a model falls
into the lines that it was made of, whatever the values are.

* `sourceLines_linesText`   lines that leave no literal open are cut again where they were joined;
* `through_escape`          no text ends the literal that it is in;
* `isLine_of_mem_classHead`, `isLine_of_mem_fieldLines`, `isLine_of_mem_enumHead`,
  `isLine_of_mem_variantLines`   the lines of models are such lines.
-/

namespace SchemaModel

namespace Source

open Text

/-! ## cutting -/

/-- where a reader of source text stands -/
inductive Lexing where
  | code
  /-- behind one `/` -/
  | slash
  | comment
  | literal
  /-- behind a backslash in a literal -/
  | escaped
  deriving DecidableEq, Repr

namespace Lexing

def after : Lexing → Char → Lexing
  | comment, _ => comment
  | escaped, _ => literal
  | literal, c => if c = '"' then code else if c = '\\' then escaped else literal
  | code, c => if c = '"' then literal else if c = '/' then slash else code
  | slash, c => if c = '"' then literal else if c = '/' then comment else code

/-- a line end belongs to a literal -/
def quotes : Lexing → Bool
  | literal | escaped => true
  | code | slash | comment => false

/-- where a text leads to, if no line ends in it -/
def through : Lexing → List Char → Option Lexing
  | state, [] => some state
  | state, c :: rest =>
    if c = '\n' ∧ state.quotes = false then none else (state.after c).through rest

theorem through_append (state : Lexing) (s t : List Char) :
    state.through (s ++ t) = (state.through s).bind (·.through t) := by
  induction s generalizing state with
  | nil => rfl
  | cons c rest ih =>
    rw [List.cons_append, through, through]
    split
    · rfl
    · exact ih (state.after c)

end Lexing

/-- the lines of a source text, from `state` on and with `line` read already -/
def sourceLines (state : Lexing) (line : List Char) : List Char → List (List Char)
  | [] => if line = [] then [] else [line]
  | c :: rest =>
    if c = '\n' ∧ state.quotes = false then line :: sourceLines .code [] rest
    else sourceLines (state.after c) (line ++ [c]) rest

theorem sourceLines_append_newline {state state' : Lexing} {s : List Char}
    (h : state.through s = some state') (hq : state'.quotes = false) (line rest : List Char) :
    sourceLines state line (s ++ '\n' :: rest) = (line ++ s) :: sourceLines .code [] rest := by
  induction s generalizing state line with
  | nil =>
    cases h
    rw [List.nil_append, sourceLines, if_pos ⟨rfl, hq⟩, List.append_nil]
  | cons c s ih =>
    rw [Lexing.through] at h
    split at h
    · cases h
    · next hc =>
      rw [List.cons_append, sourceLines, if_neg hc, ih h, List.append_assoc]
      rfl

/-- a text in which no line ends and that leaves no literal open -/
def IsLine (s : String) : Prop :=
  ∃ state, Lexing.code.through s.toList = some state ∧ state.quotes = false

/-- Lines are cut again where they were joined. -/
theorem sourceLines_linesText {lines : List String} (h : ∀ line ∈ lines, IsLine line)
    (rest : List Char) :
    sourceLines .code [] ((linesText lines).toList ++ rest) =
      lines.map String.toList ++ sourceLines .code [] rest := by
  induction lines with
  | nil => rfl
  | cons line lines ih =>
    obtain ⟨state, hstate, hq⟩ := h line List.mem_cons_self
    have hsplit : (linesText (line :: lines)).toList ++ rest =
        line.toList ++ '\n' :: ((linesText lines).toList ++ rest) := by
      rw [linesText_cons, String.toList_append, String.toList_append, List.append_assoc,
        List.append_assoc]
      rfl
    rw [hsplit, sourceLines_append_newline hstate hq, List.nil_append,
      ih fun l hl => h l (List.mem_cons_of_mem _ hl)]
    rfl

/-! ## kinds of lines -/

/-- a character that means nothing to the cutting -/
def isCalm (c : Char) : Bool := c ≠ '"' && c ≠ '/' && c ≠ '\n'

def Calm (s : String) : Prop := ∀ c ∈ s.toList, isCalm c = true

instance : DecidablePred Calm := fun s => List.decidableBAll (isCalm · = true) s.toList

theorem Calm.append {s t : String} (hs : Calm s) (ht : Calm t) : Calm (s ++ t) := by
  intro c hc
  rw [String.toList_append, List.mem_append] at hc
  exact hc.elim (hs c) (ht c)

theorem isCalm_of_isPartChar {c : Char} (h : isPartChar c = true) : isCalm c = true := by
  by_cases hascii : c.toNat < 128
  · have hall : ∀ n < 128, isPartChar (Char.ofNat n) = true → isCalm (Char.ofNat n) = true := by
      decide
    have hcalm := hall _ hascii (by rwa [Char.ofNat_toNat])
    rwa [Char.ofNat_toNat] at hcalm
  · have hne : ∀ d : Char, d.toNat < 128 → c ≠ d := by
      rintro d hd rfl
      exact hascii hd
    simp [isCalm, hne '"' (by decide), hne '/' (by decide), hne '\n' (by decide)]

theorem calm_of_wordParts {name : String} (h : WordParts name) : Calm name :=
  fun _ hc => isCalm_of_isPartChar (h.isPartChar_of_mem hc)

theorem through_of_calm {s : List Char} (h : ∀ c ∈ s, isCalm c = true) :
    Lexing.code.through s = some .code := by
  induction s with
  | nil => rfl
  | cons c rest ih =>
    obtain ⟨hc, hrest⟩ := List.forall_mem_cons.mp h
    obtain ⟨⟨hquote, hslash⟩, hline⟩ : (c ≠ '"' ∧ c ≠ '/') ∧ c ≠ '\n' := by simpa [isCalm] using hc
    rw [Lexing.through, if_neg fun he => hline he.1, Lexing.after, if_neg hquote, if_neg hslash]
    exact ih hrest

theorem isLine_of_calm {s : String} (h : Calm s) : IsLine s := ⟨.code, through_of_calm h, rfl⟩

/-- The text of a literal leads to its closing quote and no further. -/
theorem through_escape (s behind : List Char) :
    Lexing.literal.through (escape s ++ '"' :: behind) = Lexing.code.through behind := by
  induction s with
  | nil => rfl
  | cons c rest ih =>
    rw [escape]
    split
    · -- a mark stands before `c`, so `c` cannot end the literal
      rw [List.cons_append, List.cons_append, Lexing.through, if_neg (by decide), Lexing.through,
        if_neg fun he => absurd he.2 (by decide)]
      exact ih
    · next hc =>
      rw [not_or] at hc
      rw [List.cons_append, Lexing.through, if_neg fun he => absurd he.2 (by decide),
        Lexing.after, if_neg hc.2, if_neg hc.1]
      exact ih

theorem toList_rename (s : String) : (rename s).toList =
    "    #[serde(rename = \"".toList ++ (escape s.toList ++ '"' :: [')', ']']) := by
  unfold rename
  simp

theorem isLine_rename (s : String) : IsLine (rename s) := by
  have hopen : Lexing.code.through "    #[serde(rename = \"".toList = some .literal := by decide
  refine ⟨.code, ?_, rfl⟩
  rw [toList_rename, Lexing.through_append, hopen, Option.bind_some, through_escape]
  decide

theorem through_comment {s : List Char} (h : '\n' ∉ s) :
    Lexing.comment.through s = some .comment := by
  induction s with
  | nil => rfl
  | cons c rest ih =>
    rw [List.mem_cons, not_or] at h
    rw [Lexing.through, if_neg fun he => h.1 he.1.symm]
    exact ih h.2

theorem newline_not_mem_lines {s line : List Char} (h : line ∈ Text.lines s) : '\n' ∉ line := by
  have hpiece : ∀ piece ∈ pieces (· == '\n') s, '\n' ∉ piece := fun piece hp hn =>
    absurd (not_of_mem_pieces hp hn) (by decide)
  rcases List.mem_append.mp h with h | h
  · obtain ⟨piece, hp, rfl⟩ := List.mem_map.mp h
    intro hn
    refine hpiece piece (List.mem_of_mem_dropLast hp) ?_
    unfold dropReturn at hn
    split at hn
    · exact List.mem_of_mem_dropLast hn
    · exact hn
  · have hlast := List.mem_of_mem_filter h
    exact hpiece line (List.mem_of_getLast? (Option.mem_toList.mp hlast))

/-- A description falls into lines of comments, whatever stands in it. -/
theorem isLine_of_mem_comment {indent : String} (hi : Calm indent) {description : Option String}
    {line : String} (h : line ∈ comment indent description) : IsLine line := by
  unfold comment at h
  split at h
  · cases h
  · obtain ⟨text, htext, rfl⟩ := List.mem_map.mp h
    have hnewline : '\n' ∉ trimEnd text := fun hn => newline_not_mem_lines htext
      (List.mem_reverse.mp ((List.dropWhile_sublist _).subset (List.mem_reverse.mp hn)))
    have hmark : Lexing.code.through ['/', '/', '/', ' '] = some .comment := rfl
    refine ⟨.comment, ?_, rfl⟩
    unfold commentLine
    split
    · rw [String.toList_append, Lexing.through_append, through_of_calm hi]
      rfl
    · rw [String.toList_append, String.toList_append, String.toList_ofList, String.toList_ofList,
        List.append_assoc, Lexing.through_append, through_of_calm hi, Option.bind_some,
        Lexing.through_append, hmark, Option.bind_some, through_comment hnewline]

/-! ## classes -/

theorem calm_typeText {type : TypeRef} (h : ∀ name, type.named? = some name → Calm name) :
    Calm (typeText type) := by
  induction type with
  | boolean | integer | number | string | dateTime | any => decide
  | classNamed name | enumNamed name => exact h name rfl
  | sequence element ih =>
    have helement : Calm ("Vec<" ++ typeText element) := Calm.append (by decide) (ih h)
    exact helement.append (by decide)

theorem calm_fieldTypeText (models : ModelSet) (owner : String) {type : TypeRef}
    (h : ∀ name, type.named? = some name → Calm name) :
    Calm (fieldTypeText models owner type) := by
  unfold fieldTypeText
  split
  · next name =>
    split
    · have hname : Calm ("Box<" ++ name) := Calm.append (by decide) (h name rfl)
      exact hname.append (by decide)
    · exact h name rfl
  · exact calm_typeText h

theorem calm_fieldName {name : String} (h : CapitalParts name) :
    Calm (Naming.fieldName name) := by
  intro c hc
  rcases Naming.mem_fieldName h hc with hpart | rfl
  · exact isCalm_of_isPartChar hpart
  · rfl

/-- the line in front of the declaration of a field that may be missing -/
def optionalMark : String := "    #[serde(default, skip_serializing_if = \"Option::is_none\")]"

theorem fieldLines_eq (models : ModelSet) (owner : String) (p : Property) :
    fieldLines models owner p = comment "    " p.description ++
      ((if Naming.plain (Naming.fieldName p.name) = p.jsonName then [] else [rename p.jsonName]) ++
        ((if p.required then [] else [optionalMark]) ++
          [declaration p (fieldTypeText models owner p.type)])) := by
  rw [fieldLines, List.append_assoc, declaration, optionalMark]
  cases p.required <;> rfl

theorem isLine_declaration {p : Property} (h : CapitalParts p.name) {type : String}
    (ht : Calm type) : IsLine (declaration p type) := by
  have hpub : Calm ("    pub " ++ Naming.fieldName p.name) :=
    Calm.append (by decide) (calm_fieldName h)
  unfold declaration
  split
  · exact isLine_of_calm (((hpub.append (by decide)).append ht).append (by decide))
  · exact isLine_of_calm (((hpub.append (by decide)).append ht).append (by decide))

/-- The lines of a field, for a property whose name and type are written with calm characters. -/
theorem isLine_of_mem_fieldLines (models : ModelSet) (owner : String) {p : Property}
    (hn : CapitalParts p.name) (ht : ∀ name, p.type.named? = some name → Calm name)
    {line : String} (h : line ∈ fieldLines models owner p) : IsLine line := by
  simp only [fieldLines_eq, List.mem_append] at h
  rcases h with h | h | h | h
  · exact isLine_of_mem_comment (by decide) h
  · split at h
    · cases h
    · rw [List.mem_singleton.mp h]
      exact isLine_rename p.jsonName
  · split at h
    · cases h
    · rw [List.mem_singleton.mp h]
      exact ⟨.code, by decide, rfl⟩
  · rw [List.mem_singleton.mp h]
    exact isLine_declaration hn (calm_fieldTypeText models owner ht)

theorem calm_intercalate {sep : String} (hs : Calm sep) {names : List String}
    (h : ∀ name ∈ names, Calm name) : Calm (sep.intercalate names) := by
  intro c hc
  rw [String.toList_intercalate] at hc
  rcases mem_intercalate hc with hc | ⟨part, hpart, hc⟩
  · exact hs c hc
  · obtain ⟨name, hname, rfl⟩ := List.mem_map.mp hpart
    exact h name hname c hc

theorem isLine_of_mem_useLines {names : List String} (h : ∀ name ∈ names, Calm name)
    {line : String} (hl : line ∈ useLines names) : IsLine line := by
  unfold useLines at hl
  split at hl
  · cases hl
  · next name =>
    rw [List.mem_singleton.mp hl]
    have hone : Calm ("use super::" ++ name) :=
      Calm.append (by decide) (h name List.mem_cons_self)
    exact isLine_of_calm (hone.append (by decide))
  · rw [List.mem_singleton.mp hl]
    have hall : Calm ("use super::\x7b" ++ ", ".intercalate names) :=
      Calm.append (by decide) (calm_intercalate (by decide) h)
    exact isLine_of_calm (hall.append (by decide))

/-- the lines of a class in front of the one that opens it -/
def classHead (c : ClassModel) : List String :=
  modelHead ++ useLines (mentioned c) ++ [""] ++ comment "" c.description ++
    ["#[derive(Debug, Clone, Serialize, Deserialize)]"]

theorem isLine_of_mem_modelHead {line : String} (h : line ∈ modelHead) : IsLine line := by
  rcases List.mem_cons.mp h with rfl | h
  · exact ⟨.comment, by decide, rfl⟩
  · have hcalm : ∀ l ∈ ["", "use serde::\x7bDeserialize, Serialize\x7d;"], Calm l := by decide
    exact isLine_of_calm (hcalm line h)

theorem isLine_of_mem_classHead {c : ClassModel}
    (h : ∀ p ∈ c.properties, ∀ name, p.type.named? = some name → Calm name)
    {line : String} (hl : line ∈ classHead c) : IsLine line := by
  have hmentioned : ∀ name ∈ mentioned c, Calm name := by
    intro name hname
    rw [mentioned, mem_sortedSet, List.mem_filter] at hname
    obtain ⟨p, hp, hnamed⟩ := List.mem_filterMap.mp hname.1
    exact h p hp name hnamed
  simp only [classHead, List.mem_append] at hl
  rcases hl with (((hl | hl) | hl) | hl) | hl
  · exact isLine_of_mem_modelHead hl
  · exact isLine_of_mem_useLines hmentioned hl
  · rw [List.mem_singleton.mp hl]
    exact isLine_of_calm (by decide)
  · exact isLine_of_mem_comment (by decide) hl
  · rw [List.mem_singleton.mp hl]
    exact isLine_of_calm (by decide)

/-- the line that opens a type -/
def opening (keyword name : String) : String := "pub " ++ keyword ++ " " ++ name ++ " \x7b"

theorem isLine_opening {keyword name : String} (hk : Calm keyword) (hn : CapitalParts name) :
    IsLine (opening keyword name) := by
  have hopen : Calm ("pub " ++ keyword ++ " ") :=
    (Calm.append (by decide) hk).append (by decide)
  exact isLine_of_calm ((hopen.append (calm_of_wordParts hn.wordParts)).append (by decide))

theorem classLines_eq (models : ModelSet) (c : ClassModel) :
    classLines models c = classHead c ++ opening "struct" c.name ::
      (c.properties.flatMap (fieldLines models c.name) ++ ["\x7d"]) ++ overrideLines c := by
  simp only [classLines, classHead, opening, List.append_assoc, List.cons_append, List.nil_append]
  rfl

/-! ## enumerations -/

/-- the lines of an enumeration in front of the one that opens it -/
def enumHead (e : EnumModel) : List String :=
  modelHead ++ [""] ++ comment "" e.description ++
    ["#[derive(Debug, Clone, Copy, PartialEq, Eq, Hash, Default, Serialize, Deserialize)]"]

theorem enumLines_eq (e : EnumModel) :
    enumLines e = enumHead e ++ opening "enum" e.name ::
      (allVariantLines e.members ++ ["\x7d"]) ++ [] := by
  simp only [enumLines, enumHead, opening, List.append_assoc, List.cons_append, List.nil_append,
    List.append_nil]
  rfl

theorem isLine_of_mem_enumHead {e : EnumModel} {line : String} (h : line ∈ enumHead e) :
    IsLine line := by
  simp only [enumHead, List.mem_append] at h
  rcases h with ((h | h) | h) | h
  · exact isLine_of_mem_modelHead h
  · rw [List.mem_singleton.mp h]
    exact isLine_of_calm (by decide)
  · exact isLine_of_mem_comment (by decide) h
  · rw [List.mem_singleton.mp h]
    exact isLine_of_calm (by decide)

theorem isLine_of_mem_variantLines {m : EnumMember} (hn : CapitalParts m.name) {line : String}
    (h : line ∈ variantLines m) : IsLine line := by
  have hname : Calm ("    " ++ m.name) :=
    Calm.append (by decide) (calm_of_wordParts hn.wordParts)
  rcases List.mem_cons.mp h with rfl | h
  · cases m.value with
    | some value => exact isLine_rename value
    | none => exact isLine_of_calm (by decide)
  · rw [List.mem_singleton.mp h]
    exact isLine_of_calm (hname.append (by decide))

theorem isLine_of_mem_allVariantLines {members : List EnumMember}
    (hn : ∀ m ∈ members, CapitalParts m.name) {line : String}
    (h : line ∈ allVariantLines members) : IsLine line := by
  cases members with
  | nil => cases h
  | cons first others =>
    obtain ⟨hfirst, hothers⟩ := List.forall_mem_cons.mp hn
    rcases List.mem_cons.mp h with rfl | h
    · exact isLine_of_calm (by decide)
    · rcases List.mem_append.mp h with h | h
      · exact isLine_of_mem_variantLines hfirst h
      · obtain ⟨m, hm, hl⟩ := List.mem_flatMap.mp h
        exact isLine_of_mem_variantLines (hothers m hm) hl

end Source

end SchemaModel
