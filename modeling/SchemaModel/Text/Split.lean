/-!
# Cutting texts into pieces

`pieces p s` are the parts of `s` between the characters of a class, empty ones included, so that
`n` separators always give `n + 1` pieces. `lines` cuts at line ends.
-/

namespace SchemaModel.Text

/-- the parts between the characters satisfying `p` -/
def pieces (p : Char → Bool) : List Char → List (List Char)
  | [] => [[]]
  | c :: rest => if p c then [] :: pieces p rest else (pieces p rest).modifyHead (c :: ·)

theorem pieces_nil (p : Char → Bool) : pieces p [] = [[]] := rfl

theorem pieces_cons (p : Char → Bool) (c : Char) (rest : List Char) :
    pieces p (c :: rest) =
      if p c then [] :: pieces p rest else (pieces p rest).modifyHead (c :: ·) := rfl

theorem pieces_ne_nil (p : Char → Bool) (s : List Char) : pieces p s ≠ [] := by
  cases s with
  | nil => simp [pieces_nil]
  | cons c rest =>
    rw [pieces_cons]
    split
    · simp
    · have h := pieces_ne_nil p rest
      cases hp : pieces p rest with
      | nil => exact absurd hp h
      | cons w ws => simp

theorem length_pieces (p : Char → Bool) (s : List Char) :
    (pieces p s).length = s.countP p + 1 := by
  induction s with
  | nil => rfl
  | cons c rest ih =>
    rw [pieces_cons]
    by_cases h : p c = true <;> simp [h, ih]

/-- At a separator the pieces of both sides come one after the other. -/
theorem pieces_append_cons {p : Char → Bool} {c : Char} (hc : p c = true) (s t : List Char) :
    pieces p (s ++ c :: t) = pieces p s ++ pieces p t := by
  induction s with
  | nil => simp [pieces_nil, pieces_cons, hc]
  | cons d s ih =>
    rw [List.cons_append, pieces_cons, pieces_cons, ih]
    split
    · rfl
    · cases hs : pieces p s with
      | nil => exact absurd hs (pieces_ne_nil p s)
      | cons w ws => rfl

/-- A text without separators is one piece. -/
theorem pieces_of_forall {p : Char → Bool} {s : List Char} (h : ∀ c ∈ s, p c = false) :
    pieces p s = [s] := by
  induction s with
  | nil => rfl
  | cons c s ih =>
    obtain ⟨hc, hs⟩ := List.forall_mem_cons.mp h
    rw [pieces_cons, if_neg (by simp [hc]), ih hs]
    rfl

/-- A text that does not end with a separator has its last character in the last piece. -/
theorem exists_pieces_concat {p : Char → Bool} {c : Char} (hc : p c = false) (s : List Char) :
    ∃ before last, pieces p (s ++ [c]) = before ++ [last ++ [c]] := by
  induction s with
  | nil => exact ⟨[], [], by simp [pieces_nil, pieces_cons, hc]⟩
  | cons d s ih =>
    obtain ⟨before, last, h⟩ := ih
    rw [List.cons_append, pieces_cons, h]
    split
    · exact ⟨[] :: before, last, rfl⟩
    · cases before with
      | nil => exact ⟨[], d :: last, rfl⟩
      | cons first before => exact ⟨(d :: first) :: before, last, rfl⟩

/-- No piece holds a separator. -/
theorem not_of_mem_pieces {p : Char → Bool} {s w : List Char} {c : Char}
    (hw : w ∈ pieces p s) (hc : c ∈ w) : p c = false := by
  induction s generalizing w with
  | nil =>
    simp only [pieces_nil, List.mem_singleton] at hw
    simp [hw] at hc
  | cons d rest ih =>
    rw [pieces_cons] at hw
    split at hw
    · rcases List.mem_cons.mp hw with rfl | hw
      · simp at hc
      · exact ih hw hc
    · next hd =>
      cases hp : pieces p rest with
      | nil => exact absurd hp (pieces_ne_nil p rest)
      | cons v vs =>
        rw [hp, List.modifyHead_cons] at hw
        rcases List.mem_cons.mp hw with rfl | hw
        · rcases List.mem_cons.mp hc with rfl | hc
          · simpa using hd
          · exact ih (hp ▸ List.mem_cons_self) hc
        · exact ih (hp ▸ List.mem_cons_of_mem _ hw) hc

/-- a piece without a carriage return at its end -/
def dropReturn (s : List Char) : List Char :=
  if s.getLast? = some '\r' then s.dropLast else s

/-- The lines of a text. A line end is a line feed, with or without a carriage return before it;
what follows the last one is a line unless it is empty. -/
def lines (s : List Char) : List (List Char) :=
  let parts := pieces (· == '\n') s
  parts.dropLast.map dropReturn ++ (parts.getLast?.toList.filter (· != []))

end SchemaModel.Text
