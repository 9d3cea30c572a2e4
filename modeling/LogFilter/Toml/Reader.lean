import LogFilter.Toml.Scalar

/-!
# Reading TOML

A document is read statement by statement. Every reader takes the text and gives what it has
read with the text after it, or nothing if the text is malformed.

## Main definitions

* `key?`, `value?`, `statement?`: what a text begins with.
* `read?`: the members of a document.
-/

namespace LogFilter.Toml

/-- A **reader** of what a text begins with. -/
abbrev Reader (α : Type) := List Char → Option (α × List Char)

/-- The text behind its blanks. -/
def skipBlanks (text : List Char) : List Char :=
  text.dropWhile isBlank

/-- The text behind its blanks, ends of line and comments. -/
def skipFiller (inComment : Bool) : List Char → List Char
  | [] => []
  | c :: rest =>
      if c = '\n' then skipFiller false rest
      else if c = '\r' then skipFiller inComment rest
      else if inComment then if isLineChar c then skipFiller true rest else c :: rest
      else if isBlank c then skipFiller false rest
      else if c = '#' then skipFiller true rest
      else c :: rest

/-- The text behind the end of a line, where a comment may stand before it. -/
def skipLineEnd? (text : List Char) : Option (List Char) :=
  let text := match skipBlanks text with
    | '#' :: rest => rest.dropWhile isLineChar
    | rest => rest
  match text with
  | [] => some []
  | '\n' :: rest | '\r' :: '\n' :: rest => some rest
  | _ => none

/-- A character of a name without quotes. -/
def isBareChar (c : Char) : Bool :=
  c.isAlphanum || c == '_' || c == '-'

/-- A **name**, with or without quotes. -/
def name? : Reader String
  | '"' :: rest => lineText? '"' .plain [] rest
  | '\'' :: rest => lineText? '\'' .plain [] rest
  | text =>
      let name := text.takeWhile isBareChar
      if name.isEmpty then none else some (String.ofList name, text.drop name.length)

/-- The names of a key behind those already read, in at most so many steps. -/
def keyBehind? : Nat → List String → Reader Key
  | 0, _, _ => none
  | fuel + 1, path, text => do
      let (name, rest) ← name? (skipBlanks text)
      match skipBlanks rest with
      | '.' :: rest => keyBehind? fuel (name :: path) rest
      | rest => some (⟨path.reverse, name⟩, rest)

/-- How many arrays and tables a value may hold inside one another, and how many names a key
may have. -/
def maxDepth : Nat := 80

/-- A **key**: names with points between them, and the blanks behind it. -/
def key? : Reader Key := keyBehind? maxDepth []

/-- The items of an array behind those already read, in at most so many steps. -/
def items? (item : Reader Value) : Nat → List Value → Reader (List Value)
  | 0, _, _ => none
  | fuel + 1, done, text =>
      match skipFiller false text with
      | ']' :: rest => some (done.reverse, rest)
      | text => do
          let (value, rest) ← item text
          match skipFiller false rest with
          | ',' :: rest => items? item fuel (value :: done) rest
          | ']' :: rest => some ((value :: done).reverse, rest)
          | _ => none

/-- A key, an equals sign and a value. -/
def pair? (value : Reader Value) : Reader (Key × Value) := fun text => do
  let (key, rest) ← key? text
  match rest with
  | '=' :: rest =>
      let (value, rest) ← value (skipBlanks rest)
      some ((key, value), rest)
  | _ => none

/-- The pairs of a table that is written as a value, behind those already read, in at most so
many steps. -/
def pairs? (value : Reader Value) : Nat → Members → Reader Members
  | 0, _, _ => none
  | fuel + 1, done, text =>
      match skipFiller false text with
      | '}' :: rest => some (done, rest)
      | text => do
          let ((key, member), rest) ← pair? value text
          let done ← setPair key member done
          match skipFiller false rest with
          | ',' :: rest => pairs? value fuel done rest
          | '}' :: rest => some (done, rest)
          | _ => none

/-- The characters that may not stand in a word, points apart. -/
def endsWord (c : Char) : Bool :=
  isBlank c || c == '=' || c == ',' || c == '[' || c == ']' || c == '{' || c == '}' ||
    c == '#' || c == '\r' || c == '\n'

/-- A character that a word may begin with behind blanks. -/
def beginsWord (c : Char) : Bool :=
  !(endsWord c || c == '.' || c == '"' || c == '\'')

/-- A **word** behind blanks, which stand in reverse order, and the text after it. The blanks
belong to it if a word follows them: they may stand between a date and a time. -/
def wordBehind (blanks : List Char) : List Char → List Char × List Char
  | [] => ([], blanks.reverse)
  | c :: rest =>
      if isBlank c then wordBehind (c :: blanks) rest
      else if endsWord c || (!blanks.isEmpty && !beginsWord c) then
        ([], blanks.reverseAux (c :: rest))
      else
        let (read, left) := wordBehind [] rest
        (blanks.reverseAux (c :: read), left)

/-- The **word** that a text begins with, and the text after it. -/
def word (text : List Char) : List Char × List Char :=
  wordBehind [] text

/-- A **value**, with arrays and tables nested no deeper than there is room. -/
def value? (room : Nat) : Reader Value := fun text =>
  match text with
  | '"' :: _ | '\'' :: _ => (text? text).map fun (content, rest) => (.text content, rest)
  | '[' :: rest =>
      match room with
      | 0 => none
      | room + 1 =>
          (items? (value? room) (rest.length + 1) [] rest).map fun (items, rest) =>
            (.array items, rest)
  | '{' :: rest =>
      match room with
      | 0 => none
      | room + 1 =>
          (pairs? (value? room) (rest.length + 1) [] rest).map fun (members, rest) =>
            (.table .closed members, rest)
  | text =>
      let (written, rest) := word text
      (scalar? written).map fun value => (value, rest)

/-- A **statement**. -/
def statement? : Reader Statement
  | '[' :: '[' :: rest => do
      match ← key? rest with
      | (key, ']' :: ']' :: rest) => some (.item key, rest)
      | _ => none
  | '[' :: rest => do
      match ← key? rest with
      | (key, ']' :: rest) => some (.table key, rest)
      | _ => none
  | text => (pair? (value? maxDepth) text).map fun ((key, value), rest) =>
      (.pair key value, rest)

/-- The statements of a document behind those already read, in at most so many steps. -/
def statements? : Nat → List Statement → List Char → Option (List Statement)
  | 0, _, _ => none
  | fuel + 1, done, text =>
      match skipFiller false text with
      | [] => some done.reverse
      | text => do
          let (statement, rest) ← statement? text
          statements? fuel (statement :: done) (← skipLineEnd? rest)

/-- Whether every carriage return stands before the end of a line. -/
def returnsEndLines : List Char → Bool
  | '\r' :: '\n' :: rest => returnsEndLines rest
  | '\r' :: _ => false
  | _ :: rest => returnsEndLines rest
  | [] => true

/-- A text without the mark that some editors put in front of it. -/
def withoutMark (text : List Char) : List Char :=
  match text with
  | '\ufeff' :: rest => rest
  | text => text

/-- The **members of a document**; nothing if the text is malformed or contradicts itself. -/
def read? (text : String) : Option Members :=
  let text := withoutMark text.toList
  if returnsEndLines text then
    (statements? (text.length + 1) [] text).bind Members.ofStatements
  else none

end LogFilter.Toml
