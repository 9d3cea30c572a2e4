import LogFilter.Decimal.Shortest

/-!
# Reading Decimals as Doubles

A decimal is read as the double nearest to it, a tie going to the even significand, and as
infinity where it is beyond all doubles. Everything is reckoned exactly, on natural numbers.

## Main definitions

* `divideToEven`: a quotient rounded to the nearest number.
* `nearestDouble`: the bits of the double nearest to a decimal.
* `readInteger?`, `readDouble?`: the number that a plain text stands for.
* `Binary.roundAway`: a double rounded to the nearest whole number.
-/

namespace LogFilter

/-- A quotient **rounded to the nearest number**, to the even one on a tie. -/
def divideToEven (num den : Nat) : Nat :=
  let quotient := num / den
  let rest := num % den
  if den < 2 * rest ∨ (2 * rest = den ∧ quotient % 2 = 1) then quotient + 1 else quotient

/-- The bits of positive infinity, which are those of no smaller double. -/
def infinityBits : Nat := 2047 * twoTo 52

/-- The bits of the double nearest to a positive fraction. The exponent is the least for which
the significand has 53 bits, or that of the smallest doubles; a significand that is rounded
up to 54 bits carries into the exponent. -/
def nearestToFraction (num den : Nat) : Nat :=
  let guess : Int := max ((num.log2 : Int) - den.log2 - 53) (-1074)
  let split := fun (exponent : Int) =>
    if 0 ≤ exponent then (num, den * twoTo exponent.toNat)
    else (num * twoTo (-exponent).toNat, den)
  let (guessNum, guessDen) := split guess
  let exponent := if twoTo 53 * guessDen ≤ guessNum then guess + 1 else guess
  let (scaledNum, scaledDen) := split exponent
  min ((exponent + 1074).toNat * twoTo 52 + divideToEven scaledNum scaledDen) infinityBits

/-- The bits of the **double nearest to a decimal**. Decimals far beyond the largest double
and far below the smallest one are told by their first digit's place alone. -/
def nearestDouble (digits : Nat) (exponent : Int) : UInt64 :=
  let place := exponent + digits.repr.length
  if digits = 0 ∨ place < -330 then 0
  else if 310 < place then infinityBits.toUInt64
  else if 0 ≤ exponent then (nearestToFraction (digits * tenTo exponent.toNat) 1).toUInt64
  else (nearestToFraction digits (tenTo (-exponent).toNat)).toUInt64

/-- The bits of a double with its sign. -/
def withSign (negative : Bool) (bits : UInt64) : UInt64 :=
  if negative then bits ||| 0x8000000000000000 else bits

/-- The bits of the double that is no number. -/
def nanBits : UInt64 := 0x7FF8000000000000

/-- The value of decimal digits, most significant first. -/
def decimalValue (digits : List Char) : Nat :=
  digits.foldl (fun value c => value * 10 + (c.toNat - '0'.toNat)) 0

/-- The optional sign before a number, and the text after it. -/
def splitSign (text : List Char) : Bool × List Char :=
  match text with
  | '-' :: rest => (true, rest)
  | '+' :: rest => (false, rest)
  | rest => (false, rest)

/-- The **whole number that a plain text stands for**: digits, with an optional sign. -/
def readInteger? (text : String) : Option Int :=
  let (negative, digits) := splitSign text.toList
  if !digits.isEmpty ∧ digits.all Char.isDigit then
    some (if negative then -(decimalValue digits : Int) else decimalValue digits)
  else none

/-- The power of ten at the end of a number: nothing written is zero. -/
def exponent? (text : List Char) : Option Int :=
  match text with
  | [] => some 0
  | mark :: rest =>
      let (negative, digits) := splitSign rest
      if (mark = 'e' ∨ mark = 'E') ∧ !digits.isEmpty ∧ digits.all Char.isDigit then
        some (if negative then -(decimalValue digits : Int) else decimalValue digits)
      else none

/-- The magnitude that digits, a point and an exponent stand for; there must be a digit
before the point or after it. -/
def magnitude? (text : List Char) : Option UInt64 :=
  let whole := text.takeWhile Char.isDigit
  let (fraction, rest) := match text.drop whole.length with
    | '.' :: rest =>
        let fraction := rest.takeWhile Char.isDigit
        (fraction, rest.drop fraction.length)
    | rest => ([], rest)
  if whole.isEmpty && fraction.isEmpty then none
  else (exponent? rest).map fun exponent =>
    nearestDouble (decimalValue (whole ++ fraction)) (exponent - fraction.length)

/-- The **double that a plain text stands for**: a decimal, or the name of infinity or of the
double that is no number, in any case and with an optional sign. -/
def readDouble? (text : String) : Option UInt64 :=
  let (negative, rest) := splitSign text.toList
  let name := String.ofList (rest.map Char.toLower)
  let magnitude :=
    if name = "inf" ∨ name = "infinity" then some infinityBits.toUInt64
    else if name = "nan" then some nanBits
    else magnitude? rest
  magnitude.map (withSign negative)

/-- A positive double **rounded to the nearest whole number**, a half away from zero. -/
def Binary.roundAway (b : Binary) : Nat :=
  if 0 ≤ b.exponent then b.significand * twoTo b.exponent.toNat
  else (2 * b.significand + twoTo (-b.exponent).toNat) / twoTo ((-b.exponent).toNat + 1)

end LogFilter
