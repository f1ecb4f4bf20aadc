/-!
# Blank characters

Trimming looks at the white space of Unicode, which is wider than the four characters of
`Char.isWhitespace`.
-/

namespace SchemaModel.Text

/-- white space -/
def isBlank (c : Char) : Bool :=
  let n := c.toNat
  (9 ≤ n && n ≤ 13) || n == 0x20 || n == 0x85 || n == 0xA0 || n == 0x1680 ||
  (0x2000 ≤ n && n ≤ 0x200A) || n == 0x2028 || n == 0x2029 || n == 0x202F || n == 0x205F ||
  n == 0x3000

/-- a list without the characters of a class at its end -/
def dropEnd (p : Char → Bool) (s : List Char) : List Char :=
  (s.reverse.dropWhile p).reverse

/-- `s` without blank characters at its end -/
def trimEnd (s : List Char) : List Char := dropEnd isBlank s

/-- `s` without blank characters at either end -/
def trimList (s : List Char) : List Char := trimEnd (s.dropWhile isBlank)

def trim (s : String) : String := String.ofList (trimList s.toList)

/-- no character but white space -/
def allBlank (s : String) : Bool := s.toList.all isBlank

/-- The trimmed text, unless nothing is left of it. -/
def nonBlank? (s : String) : Option String :=
  if trim s = "" then none else some (trim s)

@[simp] theorem dropEnd_nil (p : Char → Bool) : dropEnd p [] = [] := rfl

theorem dropEnd_append_singleton (p : Char → Bool) (s : List Char) (c : Char) :
    dropEnd p (s ++ [c]) = if p c then dropEnd p s else s ++ [c] := by
  simp only [dropEnd, List.reverse_append, List.reverse_cons, List.reverse_nil, List.nil_append,
    List.singleton_append, List.dropWhile_cons]
  split <;> simp

theorem isBlank_return : isBlank '\r' = true := by decide

end SchemaModel.Text
