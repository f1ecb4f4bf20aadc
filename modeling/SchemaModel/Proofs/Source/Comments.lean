import SchemaModel.Proofs.Files.Generated
import SchemaModel.Proofs.Text.Lines

/-!
# What a description becomes in a source file

A description is free text. It is trimmed and cut into lines, each line is trimmed at its end, and
what is left of it stands behind the mark of comments on a line of its own. So no line feed of a
description gets into a comment. A carriage return does when it stands within a line, where it is
neither the end of the line nor white space around it, and a comment may not hold one.

* `isComment_iff`            the texts of a comment, told from the description alone;
* `comment_eq`               the lines written are these texts behind their marks;
* `comment_of_description`   the comment on any description, and when it has no carriage return;
* `return_in_comment`        a description with one.
-/

namespace SchemaModel.Source

open Text

/-! ## the texts of a comment -/

/-- The texts of the comment on a description: its lines, without the white space around it and at
their ends. -/
inductive IsComment : Option String → List String → Prop
  | absent : IsComment none []
  | given {s t ls texts} (htrim : IsTrimmed s.toList t) (hlines : LinesOf t ls)
      (hends : List.Forall₂ (fun line (text : String) => IsEndTrimmed line text.toList) ls texts) :
      IsComment (some s) texts

/-- a line of the description as a text of the comment -/
def commentText (line : List Char) : String := String.ofList (trimEnd line)

def commentTexts : Option String → List String
  | none => []
  | some s => (lines (trimList s.toList)).map commentText

theorem forall₂_isEndTrimmed_iff {ls : List (List Char)} {texts : List String} :
    List.Forall₂ (fun line (text : String) => IsEndTrimmed line text.toList) ls texts ↔
      ls.map commentText = texts := by
  have hone : ∀ line (text : String), IsEndTrimmed line text.toList ↔ commentText line = text := by
    intro line text
    rw [isEndTrimmed_iff, commentText, ← String.toList_inj, String.toList_ofList]
  simp only [hone]
  rw [← List.forall₂_map_left_iff, List.forall₂_eq_eq_eq]

/-- Every description has the texts of one comment. -/
theorem isComment_iff {description : Option String} {texts : List String} :
    IsComment description texts ↔ texts = commentTexts description := by
  constructor
  · rintro (_ | ⟨htrim, hlines, hends⟩)
    · rfl
    · rw [← forall₂_isEndTrimmed_iff.mp hends, ← lines_eq_iff.mpr hlines, ← isTrimmed_iff.mp htrim]
      rfl
  · rintro rfl
    cases description with
    | none => exact .absent
    | some s =>
      exact .given (isTrimmed_iff.mpr rfl) (lines_eq_iff.mp rfl) (forall₂_isEndTrimmed_iff.mpr rfl)

/-! ## the lines of a comment -/

/-- a text behind the mark of comments -/
def marked (text : String) : String := if text = "" then "///" else "/// " ++ text

theorem commentLine_eq (indent : String) (line : List Char) :
    commentLine indent line = indent ++ marked (commentText line) := by
  unfold commentLine commentText marked
  split
  · next hnil => rw [hnil, if_pos rfl]
  · next hne =>
    have htext : String.ofList (trimEnd line) ≠ "" := by
      intro he
      exact hne (String.ofList_inj.mp he)
    rw [if_neg htext, String.append_assoc]

theorem comment_eq (indent : String) (description : Option String) :
    comment indent description =
      (commentTexts description).map fun text => indent ++ marked text := by
  cases description with
  | none => rfl
  | some s =>
    rw [commentTexts, List.map_map]
    apply List.map_congr_left
    intro line _
    exact commentLine_eq indent line

theorem linesText_comment (indent : String) (description : Option String) :
    linesText (comment indent description) =
      String.join ((commentTexts description).map fun text => indent ++ marked text ++ "\n") := by
  rw [linesText, comment_eq, List.map_map]
  rfl

/-- Nothing is written without a description, and for one that is white space. -/
theorem commentTexts_eq_nil_iff {description : Option String} :
    commentTexts description = [] ↔ ∀ s ∈ description, allBlank s := by
  cases description with
  | none => simp [commentTexts]
  | some s =>
    rw [commentTexts, List.map_eq_nil_iff, lines_eq_nil_iff, trimList_eq_nil_iff]
    simp

/-! ## line feeds and carriage returns -/

theorem newline_not_mem_commentTexts {description : Option String} {text : String}
    (h : text ∈ commentTexts description) : '\n' ∉ text.toList := by
  cases description with
  | none => cases h
  | some s =>
    obtain ⟨line, hline, rfl⟩ := List.mem_map.mp h
    have hfeed : '\n' ∉ line := (lines_eq_iff.mp rfl).newline_not_mem line hline
    obtain ⟨right, hright, -⟩ := isEndTrimmed_trimEnd line
    intro hm
    rw [commentText, String.toList_ofList] at hm
    rw [hright] at hfeed
    exact hfeed (List.mem_append_left _ hm)

/-- A comment holds a carriage return if the description has one within a line. -/
theorem return_mem_commentTexts_iff (description : Option String) :
    (∃ text ∈ commentTexts description, '\r' ∈ text.toList) ↔
      ∃ s ∈ description, ReturnWithin (trimList s.toList) := by
  cases description with
  | none => simp [commentTexts]
  | some s =>
    have hlines : LinesOf (trimList s.toList) (lines (trimList s.toList)) := lines_eq_iff.mp rfl
    simp only [commentTexts, Option.mem_some_iff, exists_eq_left', ← hlines.return_mem_iff,
      List.mem_map, commentText, exists_exists_and_eq_and, String.toList_ofList]

/-- The comment on any description behind any indentation consists of lines that are the mark of
comments, or the mark, a blank and a text. The texts in order are the lines of the trimmed
description, trimmed at their ends, and no others; none of them holds a line feed. One of them holds
a carriage return exactly if one stands in the trimmed description with something behind it on its
line. Nothing is written without a description and for one that is white space. -/
theorem comment_of_description (indent : String) (description : Option String) :
    ∃ texts, (∀ texts', IsComment description texts' ↔ texts' = texts) ∧
      linesText (comment indent description) =
        String.join (texts.map fun text => indent ++ marked text ++ "\n") ∧
      (∀ text ∈ texts, '\n' ∉ text.toList) ∧
      ((∀ text ∈ texts, '\r' ∉ text.toList) ↔
        ∀ s ∈ description, ¬ ReturnWithin (trimList s.toList)) ∧
      (comment indent description = [] ↔ ∀ s ∈ description, allBlank s) := by
  refine ⟨commentTexts description, fun texts' => isComment_iff,
    linesText_comment indent description, fun text ht => newline_not_mem_commentTexts ht, ?_, ?_⟩
  · have hreturn := not_congr (return_mem_commentTexts_iff description)
    push Not at hreturn
    exact hreturn
  · rw [comment_eq, List.map_eq_nil_iff, commentTexts_eq_nil_iff]

/-- Carriage returns at the end of a line go, and a line that is blank is kept as the mark alone. -/
example : comment "  " (some " a \r\n\n b\n") = ["  /// a", "  ///", "  ///  b"] := by
  decide

/-! ## a carriage return in a comment -/

theorem not_mem_join {c : Char} {parts : List String} (h : ∀ part ∈ parts, c ∉ part.toList) :
    c ∉ (String.join parts).toList := by
  induction parts with
  | nil => exact List.not_mem_nil
  | cons part rest ih =>
    obtain ⟨hpart, hrest⟩ := List.forall_mem_cons.mp h
    rw [String.join_cons, String.toList_append, List.mem_append, not_or]
    exact ⟨hpart, ih hrest⟩

theorem return_not_mem_marked {text : String} (h : '\r' ∉ text.toList) :
    '\r' ∉ (marked text).toList := by
  unfold marked
  split
  · decide
  · rw [String.toList_append, List.mem_append, not_or]
    exact ⟨by decide, h⟩

def returnSchema : String := "\x7b\"type\":\"object\",\"description\":\"a\\rb\"\x7d"

def returnSettings : Settings := { namespaceName := "N", rootClassName := "Record" }

/-- a class whose description has a carriage return between two letters -/
def returnClass : ClassModel := ⟨"N", "Record", some "a\rb", [], false⟩

/-- The comment on the class is one line with the carriage return in it, and it consists in no way
of marked texts without one. -/
theorem return_in_comment :
    ModelSet.ofText returnSettings none returnSchema = .ok [.ofClass returnClass] ∧
    "/// a\rb" ∈ classLines [.ofClass returnClass] returnClass ∧
    ¬ ∃ texts : List String, linesText (comment "" returnClass.description) =
        String.join (texts.map fun text => "" ++ marked text ++ "\n") ∧
      ∀ text ∈ texts, '\r' ∉ text.toList := by
  have hmodels : ModelSet.ofText returnSettings none returnSchema = .ok [.ofClass returnClass] := by
    cbv
  have hcomment : linesText (comment "" returnClass.description) = "/// a\rb\n" := by decide
  refine ⟨hmodels, by decide, ?_⟩
  rintro ⟨texts, hjoin, hreturn⟩
  rw [hcomment] at hjoin
  have hnone : '\r' ∉ "/// a\rb\n".toList := by
    rw [hjoin]
    apply not_mem_join
    intro line hline
    obtain ⟨text, ht, rfl⟩ := List.mem_map.mp hline
    rw [String.empty_append, String.toList_append, List.mem_append, not_or]
    exact ⟨return_not_mem_marked (hreturn text ht), by decide⟩
  exact absurd (by decide) hnone

end SchemaModel.Source
