/-!
# Strings in TOML

A string stands between quotes, or between three quotes each if it may run over several lines.
Between double quotes a backslash begins an escape; between single quotes every character
stands for itself.

## Main definitions

* `lineText?`: the string on one line that a text continues with, and the text after it.
* `blockText?`: the same for a string over several lines.
-/

namespace LogFilter.Toml

/-- A character that may stand in a line as it is. -/
def isLineChar (c : Char) : Bool :=
  c == '\t' || (' ' ≤ c && c != '\x7f')

/-- A blank within a line. -/
def isBlank (c : Char) : Bool :=
  c == ' ' || c == '\t'

/-- The value of a hexadecimal digit. -/
def hexValue? (c : Char) : Option Nat :=
  if c.isDigit then some (c.toNat - '0'.toNat)
  else if 'a' ≤ c ∧ c ≤ 'f' then some (c.toNat - 'a'.toNat + 10)
  else if 'A' ≤ c ∧ c ≤ 'F' then some (c.toNat - 'A'.toNat + 10)
  else none

/-- The character with a code point, if there is one. -/
def character? (n : Nat) : Option Char :=
  if n.isValidChar then some (Char.ofNat n) else none

/-- What the letter behind a backslash begins. -/
inductive Escape
  | char (c : Char)
  /-- The code point of a character, in so many digits. -/
  | digits (count : Nat)
  deriving DecidableEq, Repr

/-- The **escape** that a letter behind a backslash begins. -/
def escape? : Char → Option Escape
  | 'b' => some (.char '\x08')
  | 't' => some (.char '\t')
  | 'n' => some (.char '\n')
  | 'f' => some (.char '\x0c')
  | 'r' => some (.char '\r')
  | 'e' => some (.char '\x1b')
  | '"' => some (.char '"')
  | '\\' => some (.char '\\')
  | 'x' => some (.digits 2)
  | 'u' => some (.digits 4)
  | 'U' => some (.digits 8)
  | _ => none

/-- Where a reader of a string stands. -/
inductive Place
  | plain
  /-- Behind a backslash. -/
  | escape
  /-- Inside a code point, with so many digits to come. -/
  | digits (left value : Nat)
  /-- Behind the backslash at the end of a line, which takes all white space with it. -/
  | lineEnd (ended : Bool)
  /-- Behind quotes that may close a string over several lines. -/
  | quotes (count : Nat)
  deriving DecidableEq, Repr

/-- What a character inside an escape leads to: the next place and the characters read. -/
def inEscape (done : List Char) (c : Char) : Place → Option (Place × List Char)
  | .escape =>
      (escape? c).map fun
        | .char c => (.plain, c :: done)
        | .digits count => (.digits count 0, done)
  | .digits left value => do
      let value := 16 * value + (← hexValue? c)
      if left ≤ 1 then
        let c ← character? value
        return (.plain, c :: done)
      else return (.digits (left - 1) value, done)
  | _ => none

/-- The **string on one line** that a text continues with behind its first quote, and the text
after it. -/
def lineText? (quote : Char) (place : Place) (done : List Char) :
    List Char → Option (String × List Char)
  | [] => none
  | c :: rest =>
      match place with
      | .plain =>
          if c = quote then some (String.ofList done.reverse, rest)
          else if c = '\\' ∧ quote = '"' then lineText? quote .escape done rest
          else if isLineChar c then lineText? quote .plain (c :: done) rest
          else none
      | place =>
          match inEscape done c place with
          | some (place, done) => lineText? quote place done rest
          | none => none

/-- Quotes that close a string, three of them, may stand behind one or two that belong to it. -/
def closed? (quote : Char) (done : List Char) : Place → Option String
  | .quotes count =>
      if 3 ≤ count then
        some (String.ofList (done.reverse ++ List.replicate (count - 3) quote))
      else none
  | _ => none

/-- What a character of a string over several lines leads to, quotes apart: the next place
and the characters read. -/
def inBlock (quote : Char) (done : List Char) (c : Char) : Place → Option (Place × List Char)
  | .plain | .quotes _ =>
      if c = '\\' ∧ quote = '"' then some (.escape, done)
      else if isLineChar c ∨ c = '\n' ∨ c = '\r' then some (.plain, c :: done)
      else none
  | .lineEnd ended =>
      if isBlank c ∨ c = '\r' then some (.lineEnd ended, done)
      else if c = '\n' then some (.lineEnd true, done)
      else if !ended then none
      else if c = '\\' then some (.escape, done)
      else if isLineChar c then some (.plain, c :: done)
      else none
  | .escape =>
      if isBlank c ∨ c = '\r' then some (.lineEnd false, done)
      else if c = '\n' then some (.lineEnd true, done)
      else inEscape done c .escape
  | place => inEscape done c place

/-- The **string over several lines** that a text continues with behind its first three
quotes, and the text after it. -/
def blockText? (quote : Char) (place : Place) (done : List Char) :
    List Char → Option (String × List Char)
  | [] => (closed? quote done place).map fun content => (content, [])
  | c :: rest =>
      if c = quote then
        match place with
        | .plain | .lineEnd true => blockText? quote (.quotes 1) done rest
        | .quotes 5 => (closed? quote done place).map fun content => (content, c :: rest)
        | .quotes count => blockText? quote (.quotes (count + 1)) done rest
        | place =>
            match inEscape done c place with
            | some (place, done) => blockText? quote place done rest
            | none => none
      else
        match closed? quote done place with
        | some content => some (content, c :: rest)
        | none =>
            let done := match place with
              | .quotes count => List.replicate count quote ++ done
              | _ => done
            match inBlock quote done c place with
            | some (place, done) => blockText? quote place done rest
            | none => none

/-- A string without the end of line that it begins with. -/
def withoutFirstLineEnd : List Char → List Char
  | '\n' :: rest | '\r' :: '\n' :: rest => rest
  | text => text

/-- The **string** that a text begins with, and the text after it. -/
def text? : List Char → Option (String × List Char)
  | '"' :: '"' :: '"' :: rest => blockText? '"' .plain [] (withoutFirstLineEnd rest)
  | '\'' :: '\'' :: '\'' :: rest => blockText? '\'' .plain [] (withoutFirstLineEnd rest)
  | '"' :: rest => lineText? '"' .plain [] rest
  | '\'' :: rest => lineText? '\'' .plain [] rest
  | _ => none

end LogFilter.Toml
