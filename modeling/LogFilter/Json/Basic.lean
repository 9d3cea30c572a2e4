import LogFilter.Decimal.Notation
import LogFilter.Json.Number
import LogFilter.Names

/-!
# JSON Values

A JSON value, and the one compact text in which a value is stored: no blanks, the members of
an object in order of their names, and no escape that is not needed.

## Main definitions

* `Json`: a value.
* `Json.compact`: its compact text.
-/

namespace LogFilter

/-- A **JSON value**. The members of an object stand in the order in which they are written. -/
inductive Json
  | null
  | boolean (value : Bool)
  | number (value : Json.Number)
  | string (content : String)
  | array (items : List Json)
  | object (members : List (String × Json))
  deriving Repr

namespace Json

instance : Inhabited Json := ⟨.null⟩

/-- An integer as a value. -/
def integer (value : Int) : Json := .number (.integer value)

/-- The hexadecimal digit of a number below sixteen. -/
def hexDigit (n : Nat) : Char :=
  if n < 10 then Char.ofNat (48 + n) else Char.ofNat (87 + n)

/-- A **character inside quotes**: a quote, a backslash and the control characters below the
blank are escaped, and nothing else is. -/
def quotedChar (c : Char) : List Char :=
  match c with
  | '"' => ['\\', '"']
  | '\\' => ['\\', '\\']
  | '\x08' => ['\\', 'b']
  | '\x0c' => ['\\', 'f']
  | '\n' => ['\\', 'n']
  | '\r' => ['\\', 'r']
  | '\t' => ['\\', 't']
  | c =>
      if c < ' ' then
        ['\\', 'u', '0', '0', hexDigit (c.toNat / 16), hexDigit (c.toNat % 16)]
      else [c]

/-- A string in quotes. -/
def quoted (content : String) : List Char :=
  '"' :: content.toList.flatMap quotedChar ++ ['"']

/-- A number. -/
def Number.compact : Number → List Char
  | .integer value => (toString value).toList
  | .double bits => (jsonDouble bits).toList

mutual

/-- The compact text of a value, in front of `rest`. -/
def write : Json → List Char → List Char
  | .null, rest => 'n' :: 'u' :: 'l' :: 'l' :: rest
  | .boolean true, rest => 't' :: 'r' :: 'u' :: 'e' :: rest
  | .boolean false, rest => 'f' :: 'a' :: 'l' :: 's' :: 'e' :: rest
  | .number value, rest => value.compact ++ rest
  | .string content, rest => quoted content ++ rest
  | .array items, rest => '[' :: writeItems items (']' :: rest)
  | .object members, rest => '{' :: writeMembers members ('}' :: rest)

/-- The items of an array, a comma between each two. -/
def writeItems : List Json → List Char → List Char
  | [], rest => rest
  | [item], rest => write item rest
  | item :: next :: items, rest => write item (',' :: writeItems (next :: items) rest)

/-- The members of an object, a comma between each two. -/
def writeMembers : List (String × Json) → List Char → List Char
  | [], rest => rest
  | [(name, value)], rest => quoted name ++ ':' :: write value rest
  | (name, value) :: next :: members, rest =>
      quoted name ++ ':' :: write value (',' :: writeMembers (next :: members) rest)

end

/-- The **compact text** of a value. -/
def compact (value : Json) : String :=
  String.ofList (write value [])

end Json

end LogFilter
