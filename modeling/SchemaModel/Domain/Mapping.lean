import SchemaModel.Domain.MappingTable
import SchemaModel.Text.Packed

/-!
# Mapping of domain names

Before a domain name is cut into labels, each of its characters is replaced by its compatibility
form in lower case, dropped, or refused.
-/

namespace SchemaModel.Domain

open Text

def disallowed : Array Packed.Row := Packed.rows MappingTable.disallowed

def ignored : Array Packed.Row := Packed.rows MappingTable.ignored

def mapped : Array Packed.Row := Packed.rows MappingTable.mapped

/-- What stands for a character, `none` if it is refused. -/
def mapChar? (c : Char) : Option (List Char) :=
  if Packed.holds disallowed c.toNat then none
  else if Packed.holds ignored c.toNat then some []
  else match Packed.find? mapped c.toNat with
    | some ⟨first, last, _, [image]⟩ =>
      some [Char.ofNat (if first = last then image else c.toNat - first + image)]
    | some row => some (row.values.map Char.ofNat)
    | none => some [c]

/-- The mapped form of a name, `none` if a character is refused. -/
def mapName? (s : List Char) : Option (List Char) := do return (← s.mapM mapChar?).flatten

/-- a character that mapping leaves as it is -/
def isMapped (c : Char) : Bool := mapChar? c = some [c]

end SchemaModel.Domain
