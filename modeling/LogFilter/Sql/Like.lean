import LogFilter.Sql.Basic

/-!
# Matching Patterns

A pattern is a list of items: a percent sign stands for any run of characters, an underscore
for any one character, and every other character for itself. Under an escape character, the
character after a backslash stands for itself. Text and pattern both end at their first
NUL, and case matters. The two code points at the end of the basic plane that are no characters
count as the replacement character.

## Main definitions

* `PatternItem`, `LikePattern.items?`: what a pattern consists of.
* `matchTails`: which tails of a text match, item by item from the end of the pattern.
* `LikePattern.matches`: whether a text matches a pattern.
-/

namespace LogFilter.Sql

/-- An **item of a pattern**. -/
inductive PatternItem
  /-- Any run of characters, empty or not. -/
  | anyRun
  /-- Any one character. -/
  | anyOne
  /-- This one character. -/
  | exactly (c : Char)
  deriving DecidableEq, Repr

/-- What a character stands for when no backslash is before it. -/
def PatternItem.ofChar (c : Char) : PatternItem :=
  if c = '%' then .anyRun else if c = '_' then .anyOne else .exactly c

/-- The items of a pattern with escapes; a backslash at its end stands for nothing, and such
a pattern matches no text. -/
def escapedItems? : List Char → Option (List PatternItem)
  | [] => some []
  | ['\\'] => none
  | '\\' :: c :: rest => (escapedItems? rest).map (.exactly c :: ·)
  | c :: rest => (escapedItems? rest).map (PatternItem.ofChar c :: ·)

/-- A character as it is matched: what is no character counts as the replacement one. -/
def matched (c : Char) : Char :=
  if c = '\ufffe' ∨ c = '\uffff' then '\ufffd' else c

/-- The characters of a text that are matched, up to its first NUL. -/
def matchedChars (text : String) : List Char :=
  (text.toList.takeWhile fun c => c ≠ '\x00').map matched

/-- The **items of a pattern**, if it can match at all. -/
def LikePattern.items? (pattern : LikePattern) : Option (List PatternItem) :=
  if pattern.escaped then escapedItems? (matchedChars pattern.pattern)
  else some ((matchedChars pattern.pattern).map PatternItem.ofChar)

/-- For each tail of a text whether it matches one character and then a pattern, given for
each tail whether it matches the pattern. -/
def consumeOne (accepts : Char → Bool) : List Char → List Bool → List Bool
  | c :: text, _ :: tails => (accepts c && tails.headD false) :: consumeOne accepts text tails
  | _, _ => [false]

/-- For each tail of a text whether some tail of it matches, given for each tail whether it
matches. -/
def consumeRun : List Bool → List Bool
  | [] => []
  | here :: tails =>
      let later := consumeRun tails
      (here || later.headD false) :: later

/-- For each tail of a text, from the whole text to the empty one, whether it **matches** the
items. -/
def matchTails (items : List PatternItem) (text : List Char) : List Bool :=
  items.foldr
    (fun item tails => match item with
      | .anyRun => consumeRun tails
      | .anyOne => consumeOne (fun _ => true) text tails
      | .exactly c => consumeOne (fun d => c == d) text tails)
    (text.map (fun _ => false) ++ [true])

/-- Whether a text **matches** a pattern. -/
def LikePattern.matches (pattern : LikePattern) (text : String) : Bool :=
  match pattern.items? with
  | none => false
  | some items => (matchTails items (matchedChars text)).headD false

end LogFilter.Sql
