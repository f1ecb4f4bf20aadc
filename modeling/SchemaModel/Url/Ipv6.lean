import SchemaModel.Text.Split
import SchemaModel.Url.Percent

/-!
# IPv6 addresses

Eight pieces of up to four hexadecimal digits with colons between them. Two colons stand for the
zeros that are missing, and the last two pieces may be written as an IPv4 address. An address is
written with the longest run of at least two zeros, the first of several, left out.
-/

namespace SchemaModel.Url.Ipv6

/-- the piece written in one to four hexadecimal digits -/
def piece? (s : List Char) : Option Nat :=
  if s = [] ∨ 4 < s.length then none
  else s.foldlM (fun n c => do return n * 16 + (← hexDigit? c)) 0

/-- a decimal number up to 255 without a zero in front -/
def byte? (s : List Char) : Option Nat := do
  if s = [] || !s.all Char.isDigit || (1 < s.length && s.head? = some '0') then none
  let n := s.foldl (fun n c => n * 10 + (c.toNat - 48)) 0
  if 255 < n then none else some n

/-- the two pieces of an IPv4 address -/
def embedded? (s : List Char) : Option (List Nat) := do
  match ← (Text.pieces (· == '.') s).mapM byte? with
  | [a, b, c, d] => some [a * 256 + b, c * 256 + d]
  | _ => none

/-- The pieces on one side of the double colon; an IPv4 address may end the last side. -/
def side? (last : Bool) (s : List Char) : Option (List Nat) :=
  if s = [] then some []
  else do
    let ps := Text.pieces (· == ':') s
    let front ← ps.dropLast.mapM piece?
    let final ← ps.getLast?
    if last && final.contains '.' then return front ++ (← embedded? final)
    else return front ++ [← piece? final]

/-- the parts before and behind the first double colon -/
def cut? : List Char → Option (List Char × List Char)
  | [] => none
  | ':' :: ':' :: rest => some ([], rest)
  | c :: rest => (cut? rest).map fun (a, b) => (c :: a, b)

/-- the eight pieces of an address -/
def read? (s : List Char) : Option (List Nat) := do
  match cut? s with
  | none =>
    let pieces ← side? true s
    if pieces.length = 8 then some pieces else none
  | some (a, b) =>
    let front ← side? false a
    let back ← side? true b
    let known := front.length + back.length
    if known < 8 then some (front ++ List.replicate (8 - known) 0 ++ back) else none

/-! ## writing -/

/-- The length of the run of zeros in front. -/
def zeros (pieces : List Nat) : Nat := (pieces.takeWhile (· = 0)).length

/-- Where the first longest run of zeros starts, and its length. -/
def longestRun (pieces : List Nat) : Nat × Nat :=
  (List.range pieces.length).foldl
    (fun best i =>
      let n := zeros (pieces.drop i)
      if best.2 < n then (i, n) else best) (0, 0)

def colons (pieces : List Nat) : List Char :=
  List.intercalate [':'] (pieces.map (Nat.toDigits 16))

def text (pieces : List Nat) : String :=
  let (start, n) := longestRun pieces
  String.ofList (if n < 2 then colons pieces
    else colons (pieces.take start) ++ [':', ':'] ++ colons (pieces.drop (start + n)))

end SchemaModel.Url.Ipv6
