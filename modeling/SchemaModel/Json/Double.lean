/-!
# Doubles

The finite numbers of the binary64 format as `mantissa * 2 ^ exponent`, with exact arithmetic in
`Nat`: a ratio is rounded to the nearest double, a tie to the even mantissa.

* `ofRatio?`       the double nearest to a ratio, if it is finite;
* `timesPower?`, `overPower?`   a double times or over a power of ten;
* `shortest`       the fewest decimal digits that still round to the double.
-/

namespace SchemaModel.Json

/-- A finite double. The mantissa has 53 bits, or fewer at the least exponent. -/
structure Double where
  negative : Bool
  mantissa : Nat
  exponent : Int
  deriving DecidableEq, Repr

namespace Double

/-- exponent of the least subnormal -/
def minExponent : Int := -1074

/-- exponent of the greatest doubles -/
def maxExponent : Int := 971

/-- the least mantissa of 53 bits -/
def leastNormal : Nat := 0x10000000000000

/-- the quotient rounded to nearest, a tie to even -/
def roundDiv (num den : Nat) : Nat :=
  let q := num / den
  let twice := 2 * (num % den)
  if twice < den ∨ (twice = den ∧ q % 2 = 0) then q else q + 1

/-- The double nearest to `num / den`, or `none` beyond the greatest one. -/
def ofRatio? (negative : Bool) (num den : Nat) : Option Double :=
  if num = 0 then some ⟨negative, 0, minExponent⟩
  else
    let low := max minExponent (num.log2 - den.log2 - 53)
    let exponent :=
      if (den <<< 53) <<< low.toNat ≤ num <<< (-low).toNat then low + 1 else low
    let mantissa := roundDiv (num <<< (-exponent).toNat) (den <<< exponent.toNat)
    let (mantissa, exponent) :=
      if mantissa = 2 * leastNormal then (leastNormal, exponent + 1) else (mantissa, exponent)
    if maxExponent < exponent then none else some ⟨negative, mantissa, exponent⟩

def ofNat? (negative : Bool) (n : Nat) : Option Double := ofRatio? negative n 1

/-- `x` times the double nearest to `10 ^ n` -/
def timesPower? (x : Double) (n : Nat) : Option Double := do
  let p ← ofNat? false (Nat.pow 10 n)
  let e := x.exponent + p.exponent
  ofRatio? x.negative ((x.mantissa * p.mantissa) <<< e.toNat) (1 <<< (-e).toNat)

/-- `x` over the double nearest to `10 ^ n` -/
def overPower? (x : Double) (n : Nat) : Option Double := do
  let p ← ofNat? false (Nat.pow 10 n)
  let e := x.exponent - p.exponent
  ofRatio? x.negative (x.mantissa <<< e.toNat) (p.mantissa <<< (-e).toNat)

/-! ## shortest decimals -/

/-- The numbers `digits * 10 ^ place` within the rounding interval of a double, the interval given
in quarters of the unit of its last place. -/
structure Interval where
  lower : Nat
  middle : Nat
  upper : Nat
  /-- binary exponent of the quarters -/
  exponent : Int
  /-- the ends belong to the interval -/
  closed : Bool

/-- the numbers that round to `x` -/
def interval (x : Double) : Interval where
  lower := 4 * x.mantissa -
    if x.mantissa = leastNormal ∧ minExponent < x.exponent then 1 else 2
  middle := 4 * x.mantissa
  upper := 4 * x.mantissa + 2
  exponent := x.exponent - 2
  closed := x.mantissa % 2 = 0

/-- The multiple of `10 ^ place` in an interval that is nearest to its middle. -/
def Interval.nearest? (r : Interval) (place : Int) : Option Nat :=
  let unit := Nat.pow 10 place.toNat <<< (-r.exponent).toNat
  let scale := Nat.pow 10 (-place).toNat <<< r.exponent.toNat
  let below := r.middle * scale / unit
  let holds (digits : Nat) : Bool :=
    if r.closed then r.lower * scale ≤ digits * unit && digits * unit ≤ r.upper * scale
    else r.lower * scale < digits * unit && digits * unit < r.upper * scale
  match holds below, holds (below + 1) with
  | true, true => some (roundDiv (r.middle * scale) unit)
  | true, false => some below
  | false, true => some (below + 1)
  | false, false => none

/-- The first place, going down from `place`, at which an interval holds a decimal. -/
def Interval.coarsest (r : Interval) : Nat → Int → Nat × Int
  | 0, place => (0, place)
  | n + 1, place =>
    match r.nearest? place with
    | some digits => (digits, place)
    | none => r.coarsest n (place - 1)

/-- The fewest digits that round to `x`, and the power of ten of the last of them. -/
def shortest (x : Double) : Nat × Int :=
  if x.mantissa = 0 then (0, 0)
  else
    let bits := (x.mantissa.log2 : Int) + x.exponent + 1
    x.interval.coarsest 24 (Int.fdiv (bits * 30103) 100000 + 1)

end Double

end SchemaModel.Json
