/-!
# Parts of a Text

A text in parts, with one character between each two.

## Main definitions

* `splitAt`: the parts of a text, and `joinWith`: the text of parts.
-/

namespace LogFilter.Text

/-- Splits a text at every occurrence of a character. -/
def splitAt (separator : Char) : List Char → List (List Char)
  | [] => [[]]
  | c :: rest =>
      if c = separator then [] :: splitAt separator rest
      else match splitAt separator rest with
        | [] => [[c]]
        | part :: parts => (c :: part) :: parts

/-- The text of parts, with a character between each two. -/
def joinWith (separator : Char) : List (List Char) → List Char
  | [] => []
  | [part] => part
  | part :: next :: parts => part ++ separator :: joinWith separator (next :: parts)

end LogFilter.Text
