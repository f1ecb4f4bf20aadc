import SchemaModel.Proofs.Text.Blank
import SchemaModel.Text.Split

/-!
# Lines of a text

The lines of a text are told from the text: none of them holds a line feed, and behind each there is
a line feed, with or without a carriage return in front of it. The last line may do without, and
then it is not empty. Every text consists of lines in one way, and `lines` finds it.

* `lines_append_newline`   a line feed always ends a line;
* `lines_eq_iff`           the lines found are those of which the text consists;
* `return_mem_iff`         which lines keep a carriage return when they are trimmed at the end.
-/

namespace SchemaModel.Text

theorem lines_append_newline (s t : List Char) :
    lines (s ++ '\n' :: t) = (pieces (· == '\n') s).map dropReturn ++ lines t := by
  have hne := pieces_ne_nil (· == '\n') t
  dsimp only [lines]
  rw [pieces_append_cons (by rfl), List.dropLast_append_of_ne_nil hne, List.map_append,
    List.append_assoc, List.getLast?_append_of_ne_nil _ hne]

/-! ## a text and its lines -/

/-- The text consists of the lines. -/
inductive LinesOf : List Char → List (List Char) → Prop
  | nil : LinesOf [] []
  | last {line} (hline : '\n' ∉ line) (hne : line ≠ []) : LinesOf line [line]
  | feed {line rest ls} (hline : '\n' ∉ line) (hend : line.getLast? ≠ some '\r')
      (hrest : LinesOf rest ls) : LinesOf (line ++ '\n' :: rest) (line :: ls)
  | returnFeed {line rest ls} (hline : '\n' ∉ line) (hrest : LinesOf rest ls) :
      LinesOf ((line ++ ['\r']) ++ '\n' :: rest) (line :: ls)

theorem pieces_of_line {line : List Char} (h : '\n' ∉ line) :
    pieces (· == '\n') line = [line] := by
  apply pieces_of_forall
  intro c hc
  exact beq_false_of_ne fun he => h (he ▸ hc)

theorem dropReturn_concat (line : List Char) : dropReturn (line ++ ['\r']) = line := by
  rw [dropReturn, if_pos (List.getLast?_concat ..), List.dropLast_concat]

/-- A line that ends with a line feed stands in front of the lines of the rest. -/
theorem lines_of_line {line : List Char} (h : '\n' ∉ line) (rest : List Char) :
    lines (line ++ '\n' :: rest) = dropReturn line :: lines rest := by
  rw [lines_append_newline, pieces_of_line h]
  rfl

theorem LinesOf.lines_eq {s : List Char} {ls : List (List Char)} (h : LinesOf s ls) :
    lines s = ls := by
  induction h with
  | nil => rfl
  | @last line hline hne =>
    dsimp only [lines]
    rw [pieces_of_line hline]
    simp [hne]
  | @feed line rest ls hline hend _ ih =>
    have hkept : dropReturn line = line := if_neg hend
    rw [lines_of_line hline, hkept, ih]
  | @returnFeed line rest ls hline _ ih =>
    have hfeed : '\n' ∉ line ++ ['\r'] := by simp [hline]
    rw [lines_of_line hfeed, dropReturn_concat, ih]

/-- Every text consists of lines. By induction on its length: what stands behind the first line feed
is shorter. -/
theorem exists_linesOf (s : List Char) : ∃ ls, LinesOf s ls := by
  by_cases hfeed : '\n' ∈ s
  · obtain ⟨line, rest, hs, hline⟩ := List.eq_append_cons_of_mem hfeed
    have hlength : rest.length < s.length := by
      rw [hs, List.length_append, List.length_cons]
      omega
    obtain ⟨ls, hrest⟩ := exists_linesOf rest
    by_cases hend : line.getLast? = some '\r'
    · obtain ⟨front, rfl⟩ := List.getLast?_eq_some_iff.mp hend
      have hfront : '\n' ∉ front := fun hm => hline (List.mem_append_left _ hm)
      exact ⟨front :: ls, hs ▸ .returnFeed hfront hrest⟩
    · exact ⟨line :: ls, hs ▸ .feed hline hend hrest⟩
  · by_cases hnil : s = []
    · exact ⟨[], hnil ▸ .nil⟩
    · exact ⟨[s], .last hfeed hnil⟩
termination_by s.length

/-- The lines of a text are those of which it consists. -/
theorem lines_eq_iff {s : List Char} {ls : List (List Char)} : lines s = ls ↔ LinesOf s ls := by
  constructor
  · rintro rfl
    obtain ⟨ls, h⟩ := exists_linesOf s
    rw [h.lines_eq]
    exact h
  · exact LinesOf.lines_eq

/-- A text has no lines if and only if it is empty. -/
theorem lines_eq_nil_iff {s : List Char} : lines s = [] ↔ s = [] := by
  rw [lines_eq_iff]
  constructor
  · intro h
    cases h
    rfl
  · rintro rfl
    exact .nil

theorem LinesOf.newline_not_mem {s : List Char} {ls : List (List Char)} (h : LinesOf s ls) :
    ∀ line ∈ ls, '\n' ∉ line := by
  induction h with
  | nil => exact nofun
  | last hline _ => simpa using hline
  | feed hline _ _ ih | returnFeed hline _ ih => exact List.forall_mem_cons.mpr ⟨hline, ih⟩

/-! ## lines without the white space at their ends -/

/-- the text without the white space around it -/
def IsTrimmed (s t : List Char) : Prop :=
  ∃ left right, s = left ++ t ++ right ∧ (∀ c ∈ left ++ right, isBlank c) ∧
    (∀ c, t.head? = some c → isBlank c = false) ∧ ∀ c, t.getLast? = some c → isBlank c = false

/-- the text without the white space at its end -/
def IsEndTrimmed (s t : List Char) : Prop :=
  ∃ right, s = t ++ right ∧ (∀ c ∈ right, isBlank c) ∧ ∀ c, t.getLast? = some c → isBlank c = false

theorem isTrimmed_iff {s t : List Char} : IsTrimmed s t ↔ trimList s = t := trimList_eq_iff.symm

theorem isEndTrimmed_iff {s t : List Char} : IsEndTrimmed s t ↔ trimEnd s = t :=
  dropEnd_eq_iff.symm

theorem isEndTrimmed_trimEnd (s : List Char) : IsEndTrimmed s (trimEnd s) :=
  isEndTrimmed_iff.mpr rfl

/-- What is not white space ends the trimming. -/
theorem trimEnd_append_cons {c : Char} (hc : isBlank c = false) (s t : List Char) :
    trimEnd (s ++ c :: t) = s ++ c :: trimEnd t := by
  obtain ⟨right, ht, hright, hlast⟩ := isEndTrimmed_trimEnd t
  apply isEndTrimmed_iff.mp
  refine ⟨right, ?_, hright, ?_⟩
  · rw [List.append_assoc, List.cons_append, ← ht]
  · intro d hd
    rcases List.eq_nil_or_concat' (trimEnd t) with hnil | ⟨front, e, hconcat⟩
    · rw [hnil, List.getLast?_concat] at hd
      cases hd
      exact hc
    · rw [hconcat, List.getLast?_append_cons, ← List.cons_append, List.getLast?_concat] at hd
      apply hlast d
      rw [hconcat, List.getLast?_concat, hd]

/-! ## carriage returns that stay -/

/-- A carriage return stands in front of something else on its line. -/
def ReturnWithin (s : List Char) : Prop :=
  ∃ front behind, s = front ++ '\r' :: behind ∧
    ∃ c ∈ behind.takeWhile (· != '\n'), isBlank c = false

theorem takeWhile_of_line {line : List Char} (h : '\n' ∉ line) (rest : List Char) :
    (line ++ '\n' :: rest).takeWhile (· != '\n') = line := by
  have hall : ∀ c ∈ line, (c != '\n') = true := by
    intro c hc
    exact bne_iff_ne.mpr fun he => h (he ▸ hc)
  rw [List.takeWhile_append_of_pos hall, List.takeWhile_cons_of_neg (by simp), List.append_nil]

/-- A line keeps a carriage return when it is trimmed at its end, if something else stands behind
it. -/
theorem return_mem_trimEnd_iff {line : List Char} :
    '\r' ∈ trimEnd line ↔
      ∃ front behind, line = front ++ '\r' :: behind ∧ ∃ c ∈ behind, isBlank c = false := by
  constructor
  · intro hm
    obtain ⟨right, hline, -, hlast⟩ := isEndTrimmed_trimEnd line
    obtain ⟨front, behind, htrim⟩ := List.append_of_mem hm
    rw [htrim] at hline hlast
    -- white space is not the last of what is left, so the carriage return is not
    rcases List.eq_nil_or_concat' behind with rfl | ⟨middle, c, rfl⟩
    · exact absurd (hlast '\r' (List.getLast?_concat ..)) (by decide)
    · have hc : isBlank c = false := by
        apply hlast c
        rw [List.getLast?_append_cons, ← List.cons_append, List.getLast?_concat]
      refine ⟨front, (middle ++ [c]) ++ right, ?_, c, by simp, hc⟩
      rw [hline, List.append_assoc, List.cons_append]
  · rintro ⟨front, behind, rfl, c, hc, hblank⟩
    obtain ⟨middle, right, rfl⟩ := List.append_of_mem hc
    rw [← List.cons_append, ← List.append_assoc, trimEnd_append_cons hblank]
    simp

theorem returnWithin_of_line {line : List Char} (h : '\n' ∉ line) :
    '\r' ∈ trimEnd line ↔ ReturnWithin line := by
  rw [return_mem_trimEnd_iff]
  have hwhole : ∀ front behind, line = front ++ '\r' :: behind →
      behind.takeWhile (· != '\n') = behind := by
    intro front behind hline
    rw [List.takeWhile_eq_self_iff]
    intro c hc
    refine bne_iff_ne.mpr fun he => h ?_
    rw [hline, ← he]
    exact List.mem_append_right _ (List.mem_cons_of_mem _ hc)
  constructor
  · rintro ⟨front, behind, hline, hafter⟩
    exact ⟨front, behind, hline, (hwhole front behind hline).symm ▸ hafter⟩
  · rintro ⟨front, behind, hline, hafter⟩
    exact ⟨front, behind, hline, hwhole front behind hline ▸ hafter⟩

/-- The lines on both sides of a line feed do not look at each other. -/
theorem returnWithin_append {line rest : List Char} (h : '\n' ∉ line) :
    ReturnWithin (line ++ '\n' :: rest) ↔ ReturnWithin line ∨ ReturnWithin rest := by
  constructor
  · rintro ⟨front, behind, hs, c, hc, hblank⟩
    rcases List.append_eq_append_iff.mp hs with ⟨middle, hfront, hrest⟩ | ⟨middle, hline, hbehind⟩
    · cases middle with
      | nil => cases hrest
      | cons d middle =>
        cases hrest
        exact .inr ⟨middle, behind, rfl, c, hc, hblank⟩
    · cases middle with
      | nil => cases hbehind
      | cons d middle =>
        rw [List.cons_append, List.cons.injEq] at hbehind
        obtain ⟨rfl, rfl⟩ := hbehind
        have hmiddle : '\n' ∉ middle := by
          intro hm
          rw [hline] at h
          exact h (List.mem_append_right _ (List.mem_cons_of_mem _ hm))
        rw [takeWhile_of_line hmiddle] at hc
        refine .inl ((returnWithin_of_line h).mp (return_mem_trimEnd_iff.mpr ?_))
        exact ⟨front, middle, hline, c, hc, hblank⟩
  · rintro (hwithin | ⟨front, behind, rfl, hafter⟩)
    · rw [← returnWithin_of_line h, return_mem_trimEnd_iff] at hwithin
      obtain ⟨front, behind, rfl, hafter⟩ := hwithin
      have hbehind : '\n' ∉ behind := by
        intro hm
        exact h (List.mem_append_right _ (List.mem_cons_of_mem _ hm))
      refine ⟨front, behind ++ '\n' :: rest, by simp, ?_⟩
      rwa [takeWhile_of_line hbehind]
    · exact ⟨line ++ '\n' :: front, behind, by simp, hafter⟩

/-- Which lines keep a carriage return when they are trimmed at their ends. -/
theorem LinesOf.return_mem_iff {s : List Char} {ls : List (List Char)} (h : LinesOf s ls) :
    (∃ line ∈ ls, '\r' ∈ trimEnd line) ↔ ReturnWithin s := by
  induction h with
  | nil => simp [ReturnWithin]
  | last hline _ => simpa using returnWithin_of_line hline
  | feed hline _ _ ih =>
    simp only [List.mem_cons, exists_eq_or_imp]
    rw [ih, returnWithin_of_line hline, returnWithin_append hline]
  | @returnFeed line rest ls hline _ ih =>
    have hfeed : '\n' ∉ line ++ ['\r'] := by simp [hline]
    have hsame : trimEnd (line ++ ['\r']) = trimEnd line := by
      rw [trimEnd, dropEnd_append_singleton, if_pos isBlank_return]
      rfl
    simp only [List.mem_cons, exists_eq_or_imp]
    rw [ih, ← hsame, returnWithin_of_line hfeed, returnWithin_append hfeed]

end SchemaModel.Text
