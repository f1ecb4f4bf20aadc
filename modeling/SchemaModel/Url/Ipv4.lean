import SchemaModel.Text.Split
import SchemaModel.Url.Percent

/-!
# IPv4 addresses

A host whose last part is a number is an address. It has up to four parts, each decimal, octal
behind `0` or hexadecimal behind `0x`; the last part fills the bytes that the others leave.
-/

namespace SchemaModel.Url.Ipv4

/-- the value of digits in a base, `none` if one is no digit -/
def inBase? (base : Nat) (s : List Char) : Option Nat :=
  s.foldlM (fun n c => do
    let d ← hexDigit? c
    if d < base then some (n * base + d) else none) 0

/-- the value of a part -/
def number? : List Char → Option Nat
  | [] => none
  | '0' :: 'x' :: rest | '0' :: 'X' :: rest => inBase? 16 rest
  | '0' :: d :: rest => inBase? 8 (d :: rest)
  | s => inBase? 10 s

/-- The parts between dots. A dot at the end closes the last part. -/
def parts (host : List Char) : List (List Char) :=
  let ps := Text.pieces (· == '.') host
  if ps.getLast? = some [] then ps.dropLast else ps

/-- the host must be read as an address -/
def isAddress (host : List Char) : Bool :=
  match (parts host).getLast? with
  | none => false
  | some last => (last != [] && last.all Char.isDigit) || (number? last).isSome

/-- the address, as a number of 32 bits -/
def read? (host : List Char) : Option Nat := do
  let ps := parts host
  if 4 < ps.length then none
  let numbers ← ps.mapM number?
  let last ← numbers.getLast?
  let front := numbers.dropLast
  if Nat.pow 256 (4 - front.length) ≤ last || front.any (255 < ·) then none
  let head := front.foldl (fun n part => n * 256 + part) 0
  some (head * Nat.pow 256 (4 - front.length) + last)

/-- the address in four decimal parts -/
def text (n : Nat) : String :=
  let part (i : Nat) := toString (n / Nat.pow 256 i % 256)
  part 3 ++ "." ++ part 2 ++ "." ++ part 1 ++ "." ++ part 0

end SchemaModel.Url.Ipv4
