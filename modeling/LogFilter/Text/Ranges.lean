/-!
# Ranges of Code Points

Properties of characters are given by ranges of code points.

## Main definitions

* `Ranges`: ranges of code points.
* `Ranges.contain`: whether a character lies in one of them.
-/

namespace LogFilter.Text

/-- **Ranges of code points**, each from its first to its last. -/
abbrev Ranges := List (Nat × Nat)

/-- Whether a character **lies in one of the ranges**. -/
def Ranges.contain (ranges : Ranges) (c : Char) : Bool :=
  ranges.any fun range => range.1 ≤ c.toNat && c.toNat ≤ range.2

end LogFilter.Text
