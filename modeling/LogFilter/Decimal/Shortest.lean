import LogFilter.Decimal.Power

/-!
# The Shortest Decimal of a Double

A double stands for every real number that rounds to it. Among the decimals in that interval
the one with the fewest digits is written, and of several such the one nearest to the double.
Everything is reckoned exactly, on natural numbers.

## Main definitions

* `Decimal`: a number written with decimal digits.
* `Binary`: a positive number as a multiple of a power of two, with its neighbours.
* `Binary.shortest`: the shortest decimal that stands for no other double.
* `FloatParts.ofBits`: what the bits of a double say.
-/

namespace LogFilter

/-- A **decimal**: `digits · 10 ^ exponent`. -/
structure Decimal where
  digits : Nat
  exponent : Int
  deriving DecidableEq, Repr

namespace Decimal

/-- Moves the zeros at the end of the digits into the exponent, at most `steps` of them. -/
def stripZeros : Nat → Decimal → Decimal
  | 0, d => d
  | steps + 1, d =>
      if d.digits ≠ 0 ∧ d.digits % 10 = 0 then stripZeros steps ⟨d.digits / 10, d.exponent + 1⟩
      else d

end Decimal

/-- A **positive double** `significand · 2 ^ exponent`. Below a power of two the neighbour
is only half as far away as above it. -/
structure Binary where
  significand : Nat
  exponent : Int
  /-- Whether the double is a power of two with a closer neighbour below. -/
  closeBelow : Bool
  deriving DecidableEq, Repr

namespace Binary

/-- The power of two by which a quarter of the significand's last place counts, as a factor
and a divisor. The ends of the interval are whole multiples of such quarters. -/
def quarter (b : Binary) : Nat × Nat :=
  let exponent := b.exponent - 2
  if 0 ≤ exponent then (twoTo exponent.toNat, 1) else (1, twoTo (-exponent).toNat)

/-- Whether `digits · 10 ^ exponent` rounds to the double. The ends of the interval round to
the double exactly if its significand is even. -/
def admits (b : Binary) (d : Decimal) : Bool :=
  let (factor, divisor) := b.quarter
  let low := (4 * b.significand - if b.closeBelow then 1 else 2) * factor
  let high := (4 * b.significand + 2) * factor
  let (value, unit) :=
    if 0 ≤ d.exponent then (d.digits * tenTo d.exponent.toNat * divisor, 1)
    else (d.digits * divisor, tenTo (-d.exponent).toNat)
  if b.significand % 2 = 0 then low * unit ≤ value && value ≤ high * unit
  else low * unit < value && value < high * unit

/-- The double as a fraction. -/
def fraction (b : Binary) : Nat × Nat :=
  if 0 ≤ b.exponent then (b.significand * twoTo b.exponent.toNat, 1)
  else (b.significand, twoTo (-b.exponent).toNat)

/-- The double as a multiple of `10 ^ exponent`: numerator and denominator. -/
def inUnits (b : Binary) (exponent : Int) : Nat × Nat :=
  let (above, below) := b.fraction
  if 0 ≤ exponent then (above, below * tenTo exponent.toNat)
  else (above * tenTo (-exponent).toNat, below)

/-- The place of the first decimal digit: the double lies from `10 ^ place` on and below the
next power of ten. -/
def leadingPlace (b : Binary) : Int :=
  let (above, below) := b.fraction
  let guess : Int := above.repr.length - below.repr.length
  let (num, den) := b.inUnits guess
  if den ≤ num then guess else guess - 1

/-- The decimal with a given last place that stands for the double: of the two neighbours on
that grid the nearer one if both round to the double, the one with the even digit on a tie. -/
def onGrid? (b : Binary) (place : Int) : Option Decimal :=
  let (num, den) := b.inUnits place
  let below : Decimal := ⟨num / den, place⟩
  let above : Decimal := ⟨num / den + 1, place⟩
  let rest := num % den
  match b.admits below, b.admits above with
  | true, true =>
      if 2 * rest < den ∨ (2 * rest = den ∧ below.digits % 2 = 0) then some below
      else some above
  | true, false => some below
  | false, true => some above
  | false, false => none

/-- Tries grids from coarse to fine: with one digit, two digits, and so on. -/
def search (b : Binary) : Nat → Int → Option Decimal
  | 0, _ => none
  | tries + 1, place =>
      match b.onGrid? place with
      | some decimal => some decimal
      | none => search b tries (place - 1)

/-- The **shortest decimal** that rounds to the double; seventeen digits are always enough. -/
def shortest (b : Binary) : Decimal :=
  match b.search 17 b.leadingPlace with
  | some decimal => decimal.stripZeros 17
  | none => ⟨0, 0⟩

end Binary

/-- What the **bits of a double** say. -/
inductive FloatParts
  | nan
  | infinite (negative : Bool)
  | zero (negative : Bool)
  | finite (negative : Bool) (magnitude : Binary)
  deriving DecidableEq, Repr

/-- Reads the sign, the exponent and the significand off the bits of a double. -/
def FloatParts.ofBits (bits : UInt64) : FloatParts :=
  let n := bits.toNat
  let negative := n / twoTo 63 = 1
  let biased : Nat := n / twoTo 52 % twoTo 11
  let low : Nat := n % twoTo 52
  if biased = twoTo 11 - 1 then if low = 0 then .infinite negative else .nan
  else if biased = 0 then
    if low = 0 then .zero negative else .finite negative ⟨low, -1074, false⟩
  else
    .finite negative ⟨twoTo 52 + low, (biased : Int) - 1075, low = 0 && 1 < biased⟩

end LogFilter
