import LogFilter.Decimal.Reading
import LogFilter.IntegerRange
import LogFilter.Settings.Tree

/-!
# Paths to Settings

The key under which a source sets a value may be a path: names with points between them, and
behind a name the number of an item in brackets. A key that is no path is the name of one
member as it stands.

## Main definitions

* `pathOf`: the path that a key stands for.
-/

namespace LogFilter.Settings

/-- The characters of a name in a path. -/
def isWordChar (c : Char) : Bool :=
  c.isAlphanum || c == '_' || c == '-'

/-- A blank inside brackets. -/
def isSpace (c : Char) : Bool := c == ' ' || c == '\t'

/-- How far a path has been read: the characters of an unfinished part, last one first. -/
inductive PathProgress
  | name (read : List Char)
  | number (read : List Char)
  | betweenParts

/-- The step to a named member. A name has at least one character. -/
def memberStep? (name : List Char) : Option Step :=
  if name.isEmpty then none else some (.member (String.ofList name))

/-- The step to a numbered item, whose number fits into 64 bits. -/
def itemStep? (text : List Char) : Option Step :=
  let text := text.dropWhile isSpace
  let (negative, rest) := match text with
    | '-' :: rest => (true, rest)
    | rest => (false, rest)
  let digits := rest.takeWhile Char.isDigit
  let index : Int := if negative then -decimalValue digits else decimalValue digits
  if digits.isEmpty || !(rest.drop digits.length).all isSpace then none
  else if signed64.contains index then some (.item index)
  else none

/-- The steps that a text consists of, if it is a path. -/
def steps? : PathProgress → List Char → Option (List Step)
  | .name read, [] => (memberStep? read.reverse).map ([·])
  | .number _, [] => none
  | .betweenParts, [] => some []
  | .name read, '.' :: rest => do
      let step ← memberStep? read.reverse
      return step :: (← steps? (.name []) rest)
  | .name read, '[' :: rest => do
      let step ← memberStep? read.reverse
      return step :: (← steps? (.number []) rest)
  | .name read, c :: rest =>
      if isWordChar c then steps? (.name (c :: read)) rest else none
  | .number read, ']' :: rest => do
      let step ← itemStep? read.reverse
      return step :: (← steps? .betweenParts rest)
  | .number read, c :: rest => steps? (.number (c :: read)) rest
  | .betweenParts, '.' :: rest => steps? (.name []) rest
  | .betweenParts, '[' :: rest => steps? (.number []) rest
  | .betweenParts, _ :: _ => none

/-- The **path that a key stands for**. -/
def pathOf (key : String) : List Step :=
  (steps? (.name []) key.toList).getD [.member key]

end LogFilter.Settings
