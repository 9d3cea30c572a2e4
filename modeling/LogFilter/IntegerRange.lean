/-!
# Ranges of Integers

The integers that are kept as such, in a request as in a setting, are those of 64 bits.

## Main definitions

* `IntegerRange`: the integers between two bounds.
* `signed64`, `unsigned64`: the integers of 64 bits, with a sign and without.
-/

namespace LogFilter

/-- The **integers between two bounds**, which belong to them. -/
structure IntegerRange where
  low : Int
  high : Int
  deriving DecidableEq, Repr

namespace IntegerRange

/-- Whether an integer lies between the bounds. -/
def contains (range : IntegerRange) (n : Int) : Bool :=
  range.low ≤ n && n ≤ range.high

/-- The integer between the bounds that is nearest to an integer. -/
def clamp (range : IntegerRange) (n : Int) : Int :=
  max range.low (min range.high n)

/-- The bounds belong to the range. -/
theorem contains_iff {range : IntegerRange} {n : Int} :
    range.contains n = true ↔ range.low ≤ n ∧ n ≤ range.high := by
  simp [contains]

end IntegerRange

/-- The integers of **64 bits with a sign**. -/
def signed64 : IntegerRange := ⟨-9223372036854775808, 9223372036854775807⟩

/-- The integers of **64 bits without a sign**. -/
def unsigned64 : IntegerRange := ⟨0, 18446744073709551615⟩

end LogFilter
