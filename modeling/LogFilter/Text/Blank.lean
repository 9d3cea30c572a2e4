/-!
# Blanks

The characters that Unicode counts as white space, and text without them at its ends.

## Main definitions

* `isWhiteSpace`: the property `White_Space`.
* `skipBlanks`: the text from its first other character on.
-/

namespace LogFilter.Text

/-- The Unicode property **`White_Space`**. -/
def isWhiteSpace (c : Char) : Bool :=
  let n := c.toNat
  (0x9 ≤ n && n ≤ 0xD) || n == 0x20 || n == 0x85 || n == 0xA0 || n == 0x1680 ||
    (0x2000 ≤ n && n ≤ 0x200A) || n == 0x2028 || n == 0x2029 || n == 0x202F ||
    n == 0x205F || n == 0x3000

/-- The text from its first character on that is no white space. -/
def skipBlanks (text : List Char) : List Char :=
  text.dropWhile isWhiteSpace

end LogFilter.Text
