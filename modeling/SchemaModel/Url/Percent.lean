/-!
# Percent encoding

Each part of a URL has a set of ASCII characters that are written as `%` and two hexadecimal
digits. Control characters and all bytes of characters beyond ASCII are written so in every part.
-/

namespace SchemaModel.Url

/-- characters encoded in a fragment -/
def fragmentSet : List Char := " \"<>`".toList

def querySet : List Char := " \"#<>".toList

/-- characters encoded in the query of a special scheme -/
def specialQuerySet : List Char := '\'' :: querySet

def pathSet : List Char := fragmentSet ++ "#?\x7b\x7d".toList

def userSet : List Char := pathSet ++ "/:;=@[\\]^|".toList

def hexChar (n : Nat) : Char := Char.ofNat (if n < 10 then 48 + n else 55 + n)

def percentByte (b : UInt8) : List Char :=
  ['%', hexChar (b.toNat / 16), hexChar (b.toNat % 16)]

/-- a part of a URL with the characters of `set` encoded -/
def percentEncode (set : List Char) (s : List Char) : List Char :=
  s.flatMap fun c =>
    if c.toNat < 32 || 127 ≤ c.toNat || set.contains c then
      (String.utf8EncodeChar c).flatMap percentByte
    else [c]

def hexDigit? (c : Char) : Option Nat :=
  if c.isDigit then some (c.toNat - 48)
  else if 'a' ≤ c ∧ c ≤ 'f' then some (c.toNat - 87)
  else if 'A' ≤ c ∧ c ≤ 'F' then some (c.toNat - 55)
  else none

/-- The bytes of a text. A `%` without two hexadecimal digits stands for itself. -/
def percentBytes : List Char → List UInt8
  | [] => []
  | '%' :: a :: b :: rest =>
    match hexDigit? a, hexDigit? b with
    | some x, some y => UInt8.ofNat (x * 16 + y) :: percentBytes rest
    | _, _ => 37 :: percentBytes (a :: b :: rest)
  | c :: rest => String.utf8EncodeChar c ++ percentBytes rest

/-- The text behind percent encoding, `none` if its bytes are no UTF-8. -/
def percentDecode? (s : List Char) : Option (List Char) :=
  (String.fromUTF8? (ByteArray.mk (percentBytes s).toArray)).map String.toList

end SchemaModel.Url
