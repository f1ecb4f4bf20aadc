import SchemaModel.Domain.Composition
import SchemaModel.Domain.LabelTable
import SchemaModel.Domain.Mapping

/-!
# Valid labels

A label of a domain name is in composed form, holds mapped characters only and starts with no mark.
Two joiners are allowed where they change the look of a word, and if a name is written from right
to left anywhere, each of its labels keeps one direction.
-/

namespace SchemaModel.Domain

open Text

def marks : Array Packed.Row := Packed.rows LabelTable.marks

def isMark (c : Char) : Bool := Packed.holds marks c.toNat

/-! ## joiners -/

inductive Joining where
  | left
  | right
  | dual
  | transparent
  | none
  deriving DecidableEq, Repr

def joiningTable : Array Packed.Row := Packed.rows LabelTable.joining

def joining (c : Char) : Joining :=
  match Packed.value? joiningTable c.toNat with
  | some 0 => .left
  | some 1 => .right
  | some 2 => .dual
  | some 3 => .transparent
  | _ => .none

/-- a mark that suppresses the vowel of the letter before it -/
def isVirama (c : Char) : Bool := markClass c = 9

def isJoiner (c : Char) : Bool := c.toNat = 0x200C || c.toNat = 0x200D

/-- The next character that is not transparent joins to the side of a joiner. -/
def joinsTo (sides : List Joining) (s : List Char) : Bool :=
  match (s.map joining).filter (· ≠ .transparent) with
  | j :: _ => j ∈ sides
  | [] => false

/-- A joiner between the characters `before`, the last one in front, and `after` is in place. -/
def joinerFits (joiner : Char) (before after : List Char) : Bool :=
  match before with
  | [] => false
  | c :: _ =>
    isVirama c ||
      (joiner.toNat = 0x200C && joinsTo [.left, .dual] before && joinsTo [.right, .dual] after)

/-- every joiner of a label is in place -/
def joinersFit (before : List Char) : List Char → Bool
  | [] => true
  | c :: rest => (!isJoiner c || joinerFits c before rest) && joinersFit (c :: before) rest

/-! ## direction -/

/-- classes of writing direction -/
inductive Direction where
  | left
  | right
  | arabicLetter
  | arabicNumber
  | europeanNumber
  | numberSeparator
  | commonSeparator
  | numberTerminator
  | neutral
  | boundary
  | mark
  deriving DecidableEq, Repr

def directionTable : Array Packed.Row := Packed.rows LabelTable.directions

def direction (c : Char) : Direction :=
  match Packed.value? directionTable c.toNat with
  | some 0 => .right
  | some 1 => .arabicLetter
  | some 2 => .arabicNumber
  | some 3 => .europeanNumber
  | some 4 => .numberSeparator
  | some 5 => .commonSeparator
  | some 6 => .numberTerminator
  | some 7 => .neutral
  | some 8 => .boundary
  | some 9 => .mark
  | _ => .left

/-- a name with this character is written from right to left somewhere -/
def Direction.turns (d : Direction) : Bool :=
  d ∈ [Direction.right, .arabicLetter, .arabicNumber]

/-- classes allowed in labels of both directions -/
def sharedDirections : List Direction :=
  [.europeanNumber, .numberSeparator, .commonSeparator, .numberTerminator, .neutral, .boundary,
    .mark]

/-- The last class that is not a mark is one of `ends`. -/
def endsIn (ends : List Direction) (ds : List Direction) : Bool :=
  match ds.reverse.dropWhile (· = .mark) with
  | d :: _ => d ∈ ends
  | [] => false

/-- a label keeps one direction -/
def keepsDirection (label : List Char) : Bool :=
  let ds := label.map direction
  match ds with
  | [] => true
  | .left :: _ =>
    ds.all (fun d => d = .left || d ∈ sharedDirections) &&
      endsIn [.left, .europeanNumber] ds
  | d :: _ =>
    (d = .right || d = .arabicLetter) &&
      ds.all (fun d => d.turns || d ∈ sharedDirections) &&
      endsIn [.right, .arabicLetter, .europeanNumber, .arabicNumber] ds &&
      !(ds.contains .europeanNumber && ds.contains .arabicNumber)

/-! ## labels -/

/-- The rules for one label, but for its direction. -/
def validLabel (label : List Char) : Bool :=
  label.all isMapped && normal label == label &&
    (label.head?.all fun c => !isMark c) && joinersFit [] label

end SchemaModel.Domain
