import LogFilter.Decimal.Reading
import LogFilter.IntegerRange
import LogFilter.Toml.Text

/-!
# Numbers in TOML

Whether a word is a number is told by its form, and what it stands for is told by its digits.
A word may have the form of a number and still stand for none: then it is known what is wrong
with it.

## Main definitions

* `NumberFault`: what is wrong with a number.
* `readBased`: the integer that digits stand for.
* `readPointed`: the double that a decimal stands for.
-/

namespace LogFilter.Toml

/-- **What is wrong with a number** that is written like one. -/
inductive NumberFault
  | withoutDigits
  | foreignDigit
  | tooLarge
  | tooSmall
  | doubleTooLarge
  deriving DecidableEq, Repr

/-- What a message says of a number. -/
def NumberFault.message : NumberFault → String
  | .withoutDigits => "cannot parse integer from empty string"
  | .foreignDigit => "invalid digit found in string"
  | .tooLarge => "number too large to fit in target type"
  | .tooSmall => "number too small to fit in target type"
  | .doubleTooLarge => "floating-point number overflowed"

/-- An integer with one digit more behind it. The digit takes a negative integer further
down. -/
def withDigit (base : Nat) (negative : Bool) (value : Int) (c : Char) :
    Except NumberFault Int :=
  match (hexValue? c).filter (· < base) with
  | none => .error .foreignDigit
  | some digit =>
      let value := value * base + (if negative then -(digit : Int) else digit)
      if signed64.contains value then .ok value
      else .error (if negative then .tooSmall else .tooLarge)

/-- The **integer of 64 bits that digits stand for** in a base, behind an optional sign. The
first digit that is none, or that leads too far, is at fault. -/
def readBased (base : Nat) (text : List Char) : Except NumberFault Int :=
  let (negative, digits) := splitSign text
  if text.isEmpty then .error .withoutDigits
  else if digits.isEmpty then .error .foreignDigit
  else digits.foldlM (withDigit base negative) 0

/-- The **double that a decimal stands for**. Only the name of infinity stands for it. -/
def readPointed (text : List Char) : Except NumberFault UInt64 :=
  match readDouble? (String.ofList text) with
  | some bits =>
      let infinite := bits = withSign false infinityBits.toUInt64 ∨
        bits = withSign true infinityBits.toUInt64
      if infinite ∧ text.all (· ≠ 'i') then .error .doubleTooLarge else .ok bits
  | none => .error .foreignDigit

end LogFilter.Toml
