import LogFilter.Decimal.Reading
import LogFilter.IntegerRange
import LogFilter.Json.Token

/-!
# Numbers

An integer that fits into 64 bits is kept as it is; every other number becomes a double. A
double is not always the one nearest to the number as written: the digits are gathered in a
64-bit word as far as they fit, and the word is then scaled by one power of ten.

## Main definitions

* `Number`: an integer, or a double by its bits.
* `Significand`: the digits of a number as far as a word holds them.
* `Number.ofText`: the number that a text stands for.
-/

namespace LogFilter.Json

/-- A **number**: an integer, or a double given by its bits. -/
inductive Number
  | integer (value : Int)
  | double (bits : UInt64)
  deriving DecidableEq, Repr

/-- The value of a decimal digit. -/
def digitValue (c : Char) : Nat := c.toNat - '0'.toNat

/-- How many numbers a word of 64 bits can hold. -/
def wordSize : Nat := 18446744073709551616

/-- The **digits as far as a word holds them**, and the power of ten to scale them by. -/
structure Significand where
  word : Nat
  exponent : Int
  /-- Whether a digit has been left out, so that all later ones are too. -/
  full : Bool
  deriving DecidableEq, Repr

namespace Significand

/-- Adds a digit before the point; one that no longer fits still counts as a place. -/
def pushWhole (s : Significand) (c : Char) : Significand :=
  let word := s.word * 10 + digitValue c
  if s.full || wordSize ≤ word then { s with exponent := s.exponent + 1, full := true }
  else { s with word }

/-- Adds a digit after the point; one that no longer fits is dropped. -/
def pushFraction (s : Significand) (c : Char) : Significand :=
  let word := s.word * 10 + digitValue c
  if s.full || wordSize ≤ word then { s with full := true }
  else { s with word, exponent := s.exponent - 1 }

/-- The digits of a number as written. Those after the point are tried anew, even when some
before it have been left out. -/
def ofText (text : NumberText) : Significand :=
  let whole := text.whole.foldl pushWhole ⟨0, 0, false⟩
  (text.fraction.getD []).foldl pushFraction { whole with full := false }

end Significand

/-- The double nearest to a power of ten, for exponents up to 308. -/
def powerOfTen (exponent : Nat) : Float := Float.ofBits (nearestDouble 1 exponent)

/-- Scales a double by a power of ten, in at most `steps` divisions; nothing if the result is
beyond all doubles. A word needs three divisions at most to vanish. -/
def scale : Nat → Float → Int → Option Float
  | 0, value, _ => some value
  | steps + 1, value, exponent =>
      if exponent.natAbs ≤ 308 then
        if exponent < 0 then some (value / powerOfTen exponent.natAbs)
        else
          let scaled := value * powerOfTen exponent.natAbs
          if scaled.isInf then none else some scaled
      else if value == 0 then some value
      else if 0 ≤ exponent then none
      else scale steps (value / powerOfTen 308) (exponent + 308)

/-- The exponent as written, if it is small enough to be reckoned with. -/
def writtenExponent? (negative : Bool) (digits : List Char) : Option Int :=
  let value := decimalValue digits
  if value < twoTo 31 then some (if negative then -value else value) else none

/-- The double that a number stands for; nothing if it is beyond all doubles. A number whose
exponent is out of all bounds is zero, unless it is large. -/
def NumberText.double? (text : NumberText) : Option Float :=
  let significand := Significand.ofText text
  let value := significand.word.toUInt64.toFloat
  let magnitude := match text.exponent with
    | none => scale 5 value significand.exponent
    | some (negative, digits) =>
        match writtenExponent? negative digits with
        | some exponent => scale 5 value (significand.exponent + exponent)
        | none => if significand.word ≠ 0 ∧ !negative then none else some 0
  magnitude.map fun m => if text.negative then -m else m

/-- The **number** that a text stands for; nothing if it is beyond all doubles. Zero with a
minus sign is a double, because no integer tells it from zero. -/
def Number.ofText (text : NumberText) : Option Number :=
  let value := decimalValue text.whole
  let asDouble := text.double?.map fun value => Number.double value.toBits
  if text.fraction.isNone ∧ text.exponent.isNone then
    if text.negative then
      if value ≠ 0 ∧ signed64.contains (-value) then some (.integer (-value)) else asDouble
    else if unsigned64.contains value then some (.integer value) else asDouble
  else asDouble

end LogFilter.Json
