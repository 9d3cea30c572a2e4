/-!
# Powers of Two and Ten

## Main definitions

* `twoTo`, `tenTo`: the powers by which a double and a decimal are scaled.
-/

namespace LogFilter

/-- A **power of two**. -/
def twoTo (n : Nat) : Nat := Nat.pow 2 n

/-- A **power of ten**. -/
def tenTo (n : Nat) : Nat := Nat.pow 10 n

end LogFilter
