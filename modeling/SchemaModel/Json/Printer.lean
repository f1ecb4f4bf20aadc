import SchemaModel.Json.Basic

/-!
# JSON in text

Values are written without spaces. A double has the fewest digits that read back, with a point and
at least one digit behind it from `0.00001` on and below `10000000000000000.0`, and with an
exponent elsewhere.
-/

namespace SchemaModel.Json

/-- the digits of `n` in lower case hexadecimal, at least `width` of them -/
def hexDigits (width n : Nat) : List Char :=
  let digits := Nat.toDigits 16 n
  List.replicate (width - digits.length) '0' ++ digits

/-! ## doubles -/

/-- digits with the point behind the first `whole` of them -/
def positional (digits : List Char) (whole : Int) : List Char :=
  if whole ≤ 0 then '0' :: '.' :: List.replicate (-whole).toNat '0' ++ digits
  else if whole < digits.length then
    digits.take whole.toNat ++ '.' :: digits.drop whole.toNat
  else digits ++ List.replicate (whole.toNat - digits.length) '0' ++ ['.', '0']

/-- digits with the point behind the first one, and a power of ten -/
def scientific (digits : List Char) (exponent : Int) : List Char :=
  let sign := if exponent < 0 then '-' else '+'
  let mantissa := match digits with
    | c :: d :: rest => c :: '.' :: d :: rest
    | short => short
  mantissa ++ 'e' :: sign :: Nat.toDigits 10 exponent.natAbs

def Double.text (x : Double) : String :=
  let (n, place) := x.shortest
  let digits := Nat.toDigits 10 n
  let exponent := place + digits.length - 1
  let body :=
    if -5 ≤ exponent ∧ exponent < 16 then positional digits (exponent + 1)
    else scientific digits exponent
  String.ofList (if x.negative then '-' :: body else body)

/-! ## texts -/

def escapeChar (c : Char) : List Char :=
  if c = '"' then ['\\', '"']
  else if c = '\\' then ['\\', '\\']
  else if c = '\n' then ['\\', 'n']
  else if c = '\r' then ['\\', 'r']
  else if c = '\t' then ['\\', 't']
  else if c.toNat = 8 then ['\\', 'b']
  else if c.toNat = 12 then ['\\', 'f']
  else if c.toNat < 32 then '\\' :: 'u' :: hexDigits 4 c.toNat
  else [c]

def quote (s : String) : String :=
  String.ofList ('"' :: s.toList.flatMap escapeChar ++ ['"'])

/-! ## values -/

mutual

def text : Json → String
  | null => "null"
  | bool true => "true"
  | bool false => "false"
  | int n => toString n
  | double x => x.text
  | string s => quote s
  | array items => "[" ++ itemsText items ++ "]"
  | object fields => "\x7b" ++ fieldsText fields ++ "\x7d"

def itemsText : List Json → String
  | [] => ""
  | [item] => item.text
  | item :: rest => item.text ++ "," ++ itemsText rest

def fieldsText : List (String × Json) → String
  | [] => ""
  | [(key, value)] => quote key ++ ":" ++ value.text
  | (key, value) :: rest => quote key ++ ":" ++ value.text ++ "," ++ fieldsText rest

end

end SchemaModel.Json
