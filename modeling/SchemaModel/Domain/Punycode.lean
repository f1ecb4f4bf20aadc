/-!
# Punycode

A label with characters beyond ASCII is written in ASCII as its ASCII characters, a hyphen, and the
insertions that add the others, each a number in digits of base 36 whose weights adapt to the
numbers before it.

* `encode`     the ASCII form of a label;
* `decode?`    the label behind an ASCII form.
-/

namespace SchemaModel.Domain.Punycode

def base : Nat := 36
def tMin : Nat := 1
def tMax : Nat := 26
def firstBias : Nat := 72
def firstCode : Nat := 128

/-! ## digits and thresholds -/

def digitChar (d : Nat) : Char := Char.ofNat (if d < 26 then 97 + d else 22 + d)

def digit? (c : Char) : Option Nat :=
  if 'a' ≤ c ∧ c ≤ 'z' then some (c.toNat - 97)
  else if 'A' ≤ c ∧ c ≤ 'Z' then some (c.toNat - 65)
  else if c.isDigit then some (c.toNat - 22)
  else none

/-- the threshold of the digit with weight number `k` -/
def threshold (k bias : Nat) : Nat :=
  if k ≤ bias then tMin else if bias + tMax ≤ k then tMax else k - bias

def adaptFrom (k delta : Nat) : Nat :=
  if h : delta > 455 then adaptFrom (k + base) (delta / 35)
  else k + 36 * delta / (delta + 38)
termination_by delta
decreasing_by omega

/-- the bias behind an insertion -/
def adapt (delta points : Nat) (first : Bool) : Nat :=
  let delta := if first then delta / 700 else delta / 2
  adaptFrom 0 (delta + delta / points)

/-! ## encoding -/

/-- The digits of a number. The last one is below its threshold. -/
def digits (bias k q : Nat) : List Char :=
  let t := threshold k bias
  if q < t ∨ t = 0 ∨ base ≤ t then [digitChar q]
  else digitChar (t + (q - t) % (base - t)) :: digits bias (k + base) ((q - t) / (base - t))
termination_by q
decreasing_by exact Nat.lt_of_le_of_lt (Nat.div_le_self _ _) (by omega)

structure Encoder where
  delta : Nat
  bias : Nat
  /-- characters written -/
  count : Nat
  output : List Char

/-- Writes the insertions of the character `n` into a label. -/
def encodePass (basic n : Nat) (state : Encoder) (c : Char) : Encoder :=
  if c.toNat < n then { state with delta := state.delta + 1 }
  else if c.toNat = n then
    { delta := 0
      bias := adapt state.delta (state.count + 1) (state.count = basic)
      count := state.count + 1
      output := state.output ++ digits state.bias base state.delta }
  else state

/-- Writes the insertions of the characters of `codes`, which are in increasing order and not below
`n`. -/
def encodeCodes (label : List Char) (basic : Nat) (n : Nat) (state : Encoder) :
    List Nat → Encoder
  | [] => state
  | m :: rest =>
    let state := { state with delta := state.delta + (m - n) * (state.count + 1) }
    let state := label.foldl (encodePass basic m) state
    encodeCodes label basic (m + 1) { state with delta := state.delta + 1 } rest

/-- a number at its place in an increasing list without repetitions -/
def insertCode (n : Nat) : List Nat → List Nat
  | [] => [n]
  | m :: rest => if n < m then n :: m :: rest else if n = m then m :: rest else m :: insertCode n rest

/-- the ASCII form of a label, without the mark in front -/
def encode (label : List Char) : List Char :=
  let ascii := label.filter fun c => c.toNat < firstCode
  let codes := (label.filter fun c => firstCode ≤ c.toNat).foldr (fun c => insertCode c.toNat) []
  let head := if ascii = [] then [] else ascii ++ ['-']
  (encodeCodes label ascii.length firstCode ⟨0, firstBias, ascii.length, head⟩ codes).output

/-! ## decoding -/

/-- Reads the digits of one number: its value and what follows it. -/
def number? (bias k i w : Nat) : List Char → Option (Nat × List Char)
  | [] => none
  | c :: rest => do
    let d ← digit? c
    let i := i + d * w
    let t := threshold k bias
    if 0x80000000 ≤ i then none
    else if d < t then some (i, rest)
    else number? bias (k + base) i (w * (base - t)) rest

theorem length_number? {bias k i w : Nat} {s rest : List Char} {v : Nat}
    (h : number? bias k i w s = some (v, rest)) : rest.length < s.length := by
  induction s generalizing k i w with
  | nil => simp [number?] at h
  | cons c s ih =>
    rw [number?] at h
    cases hd : digit? c with
    | none => simp [hd] at h
    | some d =>
      simp only [hd, Option.bind_eq_bind, Option.bind_some] at h
      split at h
      · cases h
      · split at h
        · cases h; simp
        · exact Nat.lt_succ_of_lt (ih h)

/-- Reads insertions: `n` and `i` are the last character inserted and the place behind it. -/
def insertions? (n i bias : Nat) (label : List Char) (s : List Char) : Option (List Char) :=
  if s = [] then some label
  else match h : number? bias base i 1 s with
    | none => none
    | some (v, rest) =>
      have := length_number? h
      let points := label.length + 1
      let bias := adapt (v - i) points (i = 0)
      let n := n + v / points
      if n.isValidChar then
        let place := v % points
        insertions? n (place + 1) bias (label.take place ++ Char.ofNat n :: label.drop place) rest
      else none
termination_by s.length

/-- The text before the last hyphen and the text behind it. A hyphen with nothing before it divides
nothing. -/
def cutAtLastHyphen (s : List Char) : List Char × List Char :=
  match s.reverse.dropWhile (· ≠ '-') with
  | [] | [_] => ([], s)
  | _ :: front => (front.reverse, (s.reverse.takeWhile (· ≠ '-')).reverse)

/-- the label behind an ASCII form without the mark in front -/
def decode? (s : List Char) : Option (List Char) :=
  let (ascii, rest) := cutAtLastHyphen s
  if ascii.all fun c => c.toNat < firstCode then insertions? firstCode 0 firstBias ascii rest
  else none

end SchemaModel.Domain.Punycode
