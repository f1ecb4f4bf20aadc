import SchemaModel.Text.LetterTable

/-!
# Letters and digits

The classes that decide where a name is cut into words. Below code point 128 they are those of
`Char`; above it they are read from tables.
-/

namespace SchemaModel.Text

/-- A row `(first, last, step)` holds `n`. -/
def inRun (n : Nat) : Nat × Nat × Nat → Bool
  | (first, last, step) => first ≤ n && n ≤ last && (n - first) % step == 0

/-- an interval holds `n` -/
def inInterval (n : Nat) : Nat × Nat → Bool
  | (first, last) => first ≤ n && n ≤ last

/-- letters, marks that belong to words, and numbers of every kind -/
def isAlphanumeric (c : Char) : Bool :=
  if c.toNat < 128 then c.isAlphanum else LetterTable.alphanumeric.any (inInterval c.toNat)

def isUpper (c : Char) : Bool :=
  if c.toNat < 128 then c.isUpper else LetterTable.upper.any (inRun c.toNat)

def isLower (c : Char) : Bool :=
  if c.toNat < 128 then c.isLower else LetterTable.lower.any (inRun c.toNat)

end SchemaModel.Text
