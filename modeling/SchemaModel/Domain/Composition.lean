import SchemaModel.Domain.CompositionTable
import SchemaModel.Text.Packed

/-!
# Composed form

A text in composed form holds one character for a letter and its marks where there is such a
character, and marks of different classes in the order of their classes.

* `decompose`    letters and marks apart;
* `reorder`      runs of marks sorted by class;
* `compose`      letters and marks together again.
-/

namespace SchemaModel.Domain

open Text

def composed : Array Packed.Row := Packed.rows CompositionTable.composed

def combining : Array Packed.Row := Packed.rows CompositionTable.classes

/-- the combining class; letters have 0 -/
def markClass (c : Char) : Nat := (Packed.value? combining c.toNat).getD 0

/-! ## Hangul syllables -/

def firstSyllable : Nat := 0xAC00
def firstLead : Nat := 0x1100
def firstVowel : Nat := 0x1161
/-- one before the first trailing consonant -/
def beforeTrail : Nat := 0x11A7

/-- the letters of a syllable -/
def syllableLetters? (n : Nat) : Option (List Nat) :=
  if firstSyllable ≤ n ∧ n < firstSyllable + 11172 then
    let i := n - firstSyllable
    let letters := [firstLead + i / 588, firstVowel + i % 588 / 28]
    some (if i % 28 = 0 then letters else letters ++ [beforeTrail + i % 28])
  else none

/-- the syllable of two letters, or of a syllable and a letter -/
def syllable? (a b : Nat) : Option Nat :=
  if firstLead ≤ a ∧ a < firstLead + 19 ∧ firstVowel ≤ b ∧ b < firstVowel + 21 then
    some (firstSyllable + ((a - firstLead) * 21 + (b - firstVowel)) * 28)
  else if firstSyllable ≤ a ∧ a < firstSyllable + 11172 ∧ (a - firstSyllable) % 28 = 0 ∧
      beforeTrail < b ∧ b < beforeTrail + 28 then
    some (a + (b - beforeTrail))
  else none

/-! ## decomposition and composition -/

/-- The parts of a character, up to `depth` times. -/
def decomposeChar (depth : Nat) (n : Nat) : List Nat :=
  match depth, syllableLetters? n with
  | 0, _ => [n]
  | _, some letters => letters
  | depth + 1, none =>
    match Packed.find? composed n with
    | some row => row.values.flatMap (decomposeChar depth)
    | none => [n]

def decompose (s : List Char) : List Char :=
  s.flatMap fun c => (decomposeChar 4 c.toNat).map Char.ofNat

/-- Puts a mark into a reversed run, behind the marks whose class is not greater. -/
def insertMark (c : Char) : List Char → List Char
  | [] => [c]
  | d :: rest =>
    if markClass c ≠ 0 ∧ markClass c < markClass d then d :: insertMark c rest else c :: d :: rest

def reorder (s : List Char) : List Char := (s.foldl (fun done c => insertMark c done) []).reverse

/-- the character composed of two -/
def compose? (a b : Char) : Option Char :=
  match syllable? a.toNat b.toNat with
  | some n => some (Char.ofNat n)
  | none =>
    (composed.find? fun row => row.values == [a.toNat, b.toNat]).map fun row => Char.ofNat row.first

/-- A letter with the marks behind it that did not compose, the last one in front. -/
structure Cluster where
  letter : Char
  marks : List Char

/-- The last mark left behind a letter blocks a character whose class is not greater. -/
def Cluster.blocks (k : Cluster) (c : Char) : Bool :=
  match k.marks with
  | [] => false
  | d :: _ => markClass c ≤ markClass d

/-- What has been composed, the last character in front, and the letter that may still grow. -/
def composeStep (state : List Char × Option Cluster) (c : Char) : List Char × Option Cluster :=
  let fresh (done : List Char) : List Char × Option Cluster :=
    if markClass c = 0 then (done, some ⟨c, []⟩) else (c :: done, none)
  match state with
  | (done, none) => fresh done
  | (done, some k) =>
    match if k.blocks c then none else compose? k.letter c with
    | some letter => (done, some { k with letter })
    | none =>
      if markClass c = 0 then fresh (k.marks ++ k.letter :: done)
      else (done, some { k with marks := c :: k.marks })

def compose (s : List Char) : List Char :=
  match s.foldl composeStep ([], none) with
  | (done, none) => done.reverse
  | (done, some k) => (k.marks ++ k.letter :: done).reverse

/-- the composed form of a text -/
def normal (s : List Char) : List Char := compose (reorder (decompose s))

end SchemaModel.Domain
