import SchemaModel.Text.CasingTable

/-!
# Upper and lower case

A character's other case may be several characters (`ß` in upper case is `SS`), so both maps give
a list.
-/

namespace SchemaModel.Text

/-- The image of `n` under the first row that covers it, `n` itself without one. -/
def caseImage (n : Nat) : List (Nat × Nat × Nat × Nat) → Nat
  | [] => n
  | (first, last, step, image) :: rows =>
    if first ≤ n ∧ n ≤ last ∧ (n - first) % step = 0 then n - first + image
    else caseImage n rows

def toUpper (c : Char) : List Char :=
  if c.toNat < 128 then [c.toUpper]
  else match CasingTable.upperLong.lookup c.toNat with
    | some image => image.map Char.ofNat
    | none => [Char.ofNat (caseImage c.toNat CasingTable.upper)]

def toLower (c : Char) : List Char :=
  if c.toNat < 128 then [c.toLower]
  else match CasingTable.lowerLong.lookup c.toNat with
    | some image => image.map Char.ofNat
    | none => [Char.ofNat (caseImage c.toNat CasingTable.lower)]

/-- A word in lower case. A sigma at its end takes its final form. -/
def lowerWord : List Char → List Char
  | [] => []
  | ['Σ'] => ['ς']
  | c :: rest => toLower c ++ lowerWord rest

/-- A word with its first character in upper case and the others in lower case. -/
def capitalWord : List Char → List Char
  | [] => []
  | c :: rest => toUpper c ++ lowerWord rest

end SchemaModel.Text
