import SchemaModel.Json.Basic
import SchemaModel.Json.SyntaxError

/-!
# Numerals

A numeral is read digit by digit. An integer of 64 bits stays exact. Any other numeral is the
double of a significand of 64 bits times a power of ten: digits that would overflow the
significand only move the power before the point, and count for nothing behind it.
-/

namespace SchemaModel.Json

/-- how much of a numeral has been read -/
inductive Numeral where
  /-- a sign -/
  | sign
  /-- a zero in front -/
  | zero (negative : Bool)
  | integer (negative : Bool) (significand : Nat)
  /-- an integer with `dropped` digits more than its significand -/
  | long (negative : Bool) (significand dropped : Nat)
  /-- a point without a digit behind it -/
  | point (negative : Bool) (significand : Nat) (power : Int)
  | fraction (negative : Bool) (significand : Nat) (power : Int)
  /-- a fraction whose further digits count for nothing -/
  | full (negative : Bool) (significand : Nat) (power : Int)
  /-- a letter `e` -/
  | exponentMark (negative : Bool) (significand : Nat) (power : Int)
  | exponentSign (negative : Bool) (significand : Nat) (power : Int) (below : Bool)
  | exponent (negative : Bool) (significand : Nat) (power : Int) (below : Bool) (value : Nat)
  /-- an exponent so far below zero, or of a zero, that the value is zero -/
  | vanished (negative : Bool)
  deriving DecidableEq, Repr

/-- what a character does to a numeral -/
inductive Numeral.Step where
  | more (n : Numeral)
  /-- the character does not belong to the numeral -/
  | stop
  | fault (f : SyntaxFault)

namespace Numeral

def digit? (c : Char) : Option Nat := if c.isDigit then some (c.toNat - 48) else none

/-- one more digit fits into 64 bits -/
def fits (significand digit : Nat) : Bool := significand * 10 + digit < 0x10000000000000000

/-- greatest exponent that is told from a larger one -/
def maxExponent : Nat := 2147483647

def start (c : Char) : Option Numeral :=
  if c = '-' then some .sign
  else if c = '0' then some (.zero false)
  else (digit? c).map (.integer false)

/-- The step from a complete numeral at a character that is no digit. -/
def extend (c : Char) (negative : Bool) (significand : Nat) (power : Int) (whole : Bool) : Step :=
  if whole ∧ c = '.' then .more (.point negative significand power)
  else if c = 'e' ∨ c = 'E' then .more (.exponentMark negative significand power)
  else .stop

def stepDigit (d : Nat) : Numeral → Step
  | .sign => .more (if d = 0 then .zero true else .integer true d)
  | .zero _ => .fault .invalidNumber
  | .integer s m =>
    if fits m d then .more (.integer s (m * 10 + d)) else .more (.long s m 1)
  | .long s m n => .more (.long s m (n + 1))
  | .point s m p | .fraction s m p =>
    if fits m d then .more (.fraction s (m * 10 + d) (p - 1)) else .more (.full s m p)
  | .full s m p => .more (.full s m p)
  | .exponentMark s m p => .more (.exponent s m p false d)
  | .exponentSign s m p b => .more (.exponent s m p b d)
  | .exponent s m p b v =>
    if v * 10 + d ≤ maxExponent then .more (.exponent s m p b (v * 10 + d))
    else if m ≠ 0 ∧ ¬ b then .fault .numberOutOfRange
    else .more (.vanished s)
  | .vanished s => .more (.vanished s)

def stepOther (c : Char) : Numeral → Step
  | .zero s => extend c s 0 0 true
  | .integer s m => extend c s m 0 true
  | .long s m n => extend c s m n true
  | .fraction s m p | .full s m p => extend c s m p false
  | .exponentMark s m p =>
    if c = '+' then .more (.exponentSign s m p false)
    else if c = '-' then .more (.exponentSign s m p true)
    else .fault .invalidNumber
  | .sign | .point .. | .exponentSign .. => .fault .invalidNumber
  | .exponent .. | .vanished _ => .stop

def step (n : Numeral) (c : Char) : Step :=
  match digit? c with
  | some d => stepDigit d n
  | none => stepOther c n

/-! ## values -/

/-- A double over `10 ^ n`, in steps of at most `10 ^ 308`. -/
def shrink (x : Double) (n : Nat) : Option Double :=
  if n ≤ 308 then x.overPower? n
  else if x.mantissa = 0 then some x
  else do
    let y ← x.overPower? 308
    shrink y (n - 308)
termination_by n

/-- the double `significand * 10 ^ power` -/
def scaled (negative : Bool) (significand : Nat) (power : Int) : Except SyntaxFault Json :=
  let value := do
    let x ← Double.ofNat? negative significand
    if power < 0 then shrink x power.natAbs
    else if power ≤ 308 then x.timesPower? power.toNat
    else if significand = 0 then some x
    else none
  match value with
  | some x => .ok (.double x)
  | none => .error .numberOutOfRange

/-- The value of a numeral, `none` if something must follow. -/
def value? : Numeral → Option (Except SyntaxFault Json)
  | .sign | .point .. | .exponentMark .. | .exponentSign .. => none
  | .zero false => some (.ok (.int 0))
  | .zero true => some (scaled true 0 0)
  | .integer false m => some (.ok (.int m))
  | .integer true m => some (if m ≤ 0x8000000000000000 then .ok (.int (-m)) else scaled true m 0)
  | .long s m n => some (scaled s m n)
  | .fraction s m p | .full s m p => some (scaled s m p)
  | .exponent s m p b v => some (scaled s m (if b then p - v else p + v))
  | .vanished s => some (scaled s 0 0)

end Numeral

end SchemaModel.Json
