import SchemaModel.Text.EscapedTable
import SchemaModel.Text.Packed

/-!
# Texts in messages

A text is shown between quotes. What would not be seen, or would change the character before it, is
shown by its code point.
-/

namespace SchemaModel.Text

def unprintable : Array Packed.Row := Packed.rows EscapedTable.unprintable

def extending : Array Packed.Row := Packed.rows EscapedTable.extending

/-- a character by its code point -/
def showCode (c : Char) : List Char :=
  '\\' :: 'u' :: '\x7b' :: Nat.toDigits 16 c.toNat ++ ['\x7d']

def showChar (c : Char) : List Char :=
  if c.toNat = 0 then ['\\', '0']
  else if c = '\t' then ['\\', 't']
  else if c = '\r' then ['\\', 'r']
  else if c = '\n' then ['\\', 'n']
  else if c = '"' ∨ c = '\\' then ['\\', c]
  else if 32 ≤ c.toNat ∧ c.toNat < 127 then [c]
  else if Packed.holds extending c.toNat || Packed.holds unprintable c.toNat then showCode c
  else [c]

/-- a text as messages show it -/
def quoted (s : String) : String :=
  String.ofList ('"' :: s.toList.flatMap showChar ++ ['"'])

end SchemaModel.Text
