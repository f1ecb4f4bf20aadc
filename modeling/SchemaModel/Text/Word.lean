import SchemaModel.Text.Casing
import SchemaModel.Text.Letter
import SchemaModel.Text.Split

/-!
# Words of a name

A name is cut into words at every character that is no letter or digit, between a lower case and
an upper case letter (`fooBar` is `foo`, `Bar`), and before the last of several upper case letters
that a lower case letter follows (`XMLHttp` is `XML`, `Http`). The words are joined again in upper
camel case or in snake case.
-/

namespace SchemaModel.Text

/-- the case last seen in a word -/
inductive LetterCase where
  | none
  | lower
  | upper
  deriving DecidableEq, Repr

/-- the case after the character `c`; a character of neither case keeps it -/
def LetterCase.after (before : LetterCase) (c : Char) : LetterCase :=
  if isLower c then .lower else if isUpper c then .upper else before

/-- The words of a piece that holds letters and digits only; `word` is the part of the current
word already read. -/
def caseWords (seen : LetterCase) (word : List Char) : List Char → List (List Char)
  | [] => []
  | [c] => [word ++ [c]]
  | c :: next :: rest =>
    if seen.after c = .lower ∧ isUpper next then
      (word ++ [c]) :: caseWords .none [] (next :: rest)
    else if seen = .upper ∧ isUpper c ∧ isLower next then
      word :: caseWords .none [c] (next :: rest)
    else caseWords (seen.after c) (word ++ [c]) (next :: rest)

def words (s : List Char) : List (List Char) :=
  (pieces (fun c => !isAlphanumeric c) s).flatMap (caseWords .none [])

/-- the words of a text, each with a capital, joined directly -/
def upperCamel (s : String) : String :=
  String.ofList ((words s.toList).flatMap capitalWord)

/-- the words of a text in lower case, joined by `_` -/
def snake (s : String) : String :=
  String.ofList (List.intercalate ['_'] ((words s.toList).map lowerWord))

/-- Cutting at case changes loses no character. -/
theorem flatten_caseWords (seen : LetterCase) (word s : List Char) (h : s ≠ []) :
    (caseWords seen word s).flatten = word ++ s := by
  fun_induction caseWords seen word s with
  | case1 => exact absurd rfl h
  | case2 => simp
  | case3 seen word c next rest _ ih => simp [ih]
  | case4 seen word c next rest _ _ ih => simp [ih]
  | case5 seen word c next rest _ _ ih => simp [ih]

end SchemaModel.Text
