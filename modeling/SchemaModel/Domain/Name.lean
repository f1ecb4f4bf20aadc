import SchemaModel.Domain.Label
import SchemaModel.Domain.Punycode
import SchemaModel.Text.Split

/-!
# Domain names in ASCII

A name is mapped, composed and cut into labels at its dots. A label with characters beyond ASCII is
written in Punycode behind `xn--`; a label already written so must be the form of a valid label.
Labels may be empty and of any length.
-/

namespace SchemaModel.Domain

/-- the mark of a label in Punycode -/
def punycodeMark : List Char := ['x', 'n', '-', '-']

/-- ASCII characters that no host may hold -/
def isForbidden (c : Char) : Bool :=
  c.toNat ≤ 32 || c.toNat = 127 || "%#/:<>?@[\\]^|".toList.contains c

def isAscii (c : Char) : Bool := c.toNat < 128

/-- The characters of a mapped label, `none` if it is not valid. -/
def readLabel? (label : List Char) : Option (List Char) :=
  if punycodeMark.isPrefixOf label then do
    let s ← Punycode.decode? (label.drop 4)
    if s.all isAscii || !validLabel s then none else some s
  else if validLabel label then some label
  else none

def writeLabel (label : List Char) : List Char :=
  if label.all isAscii then label else punycodeMark ++ Punycode.encode label

/-- The ASCII form of a domain name, `none` if a label is not valid. -/
def ascii? (name : List Char) : Option (List Char) := do
  let mapped ← mapName? name
  let labels ← (Text.pieces (· == '.') (normal mapped)).mapM readLabel?
  let turned := labels.any fun label => label.any fun c => (direction c).turns
  if labels.any (·.any isForbidden) || (turned && !labels.all keepsDirection) then none
  else some (List.intercalate ['.'] (labels.map writeLabel))

end SchemaModel.Domain
