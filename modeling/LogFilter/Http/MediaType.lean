/-!
# Media Types

A media type has a type and a subtype, and parameters that are not looked at but must be well
formed. What follows the last plus sign in a subtype is its suffix.

## Main definitions

* `MediaType`, `MediaType.read?`: the parts of a media type.
* `MediaType.isJson`: whether a body of this type is JSON.
-/

namespace LogFilter.Http

/-- The **parts of a media type**, in lower case. -/
structure MediaType where
  type : List Char
  /-- The subtype, up to its last plus sign if there is one. -/
  subtype : List Char
  suffix : Option (List Char)
  deriving DecidableEq, Repr

namespace MediaType

/-- Whether a character can stand in a name. -/
def isTokenChar (c : Char) : Bool :=
  c.isAlphanum || "!#$%&'*+-.^_`|~".toList.contains c

/-- Whether a character can stand in a quoted value. -/
def isQuotable (c : Char) : Bool :=
  ' ' ≤ c && c < '\x7f'

/-- Whether nothing but blanks and a semicolon, or blanks alone, follows a quoted value, and
if so what follows the semicolon. -/
def afterQuoted? (text : List Char) : Option (List Char) :=
  match text.dropWhile (· = ' ') with
  | [] => some []
  | ';' :: rest => some rest
  | _ => none

/-- The text after a quoted value, from its first character on. The first character belongs
to the value even if it is a quote. -/
def quotedValue? (text : List Char) : Option (List Char) :=
  match text with
  | [] => none
  | first :: rest =>
      if !isQuotable first then none
      else match rest.dropWhile fun c => isQuotable c && c ≠ '"' with
        | '"' :: rest => afterQuoted? rest
        | _ => none

/-- The text after the value of a parameter and its semicolon. -/
def value? (text : List Char) : Option (List Char) :=
  match text with
  | '"' :: rest => quotedValue? rest
  | text =>
      match text.dropWhile isTokenChar with
      | [] => some []
      | ';' :: rest => if (text.takeWhile isTokenChar).isEmpty then none else some rest
      | _ => none

/-- The text after one parameter and its semicolon. -/
def parameter? (text : List Char) : Option (List Char) :=
  if (text.takeWhile isTokenChar).isEmpty then none
  else match text.dropWhile isTokenChar with
    | '=' :: rest => value? rest
    | _ => none

/-- Whether a text is a list of at most `count` parameters, each of which blanks may
precede. -/
def areParameters : Nat → List Char → Bool
  | 0, text => text.isEmpty
  | count + 1, text =>
      let text := text.dropWhile (· = ' ')
      text.isEmpty ||
        match parameter? text with
        | some rest => areParameters count rest
        | none => false

/-- Splits a subtype at its last plus sign, unless that is its first character. -/
def splitSuffix (subtype : List Char) : List Char × Option (List Char) :=
  match subtype with
  | [] => ([], none)
  | first :: rest =>
      if rest.contains '+' then
        let suffix := (rest.reverse.takeWhile (· ≠ '+')).reverse
        (first :: rest.take (rest.length - suffix.length - 1), some suffix)
      else (subtype, none)

/-- Reads a **media type**. -/
def read? (text : String) : Option MediaType :=
  let lower := text.toList.map Char.toLower
  let type := lower.takeWhile isTokenChar
  match lower.drop type.length with
  | '/' :: rest =>
      let name := rest.takeWhile isTokenChar
      let wellFormed := match rest.drop name.length with
        | [] => true
        | ';' :: parameters =>
            !name.isEmpty && areParameters (parameters.length + 1) parameters
        | _ => false
      if !type.isEmpty && wellFormed then
        let (subtype, suffix) := splitSuffix name
        some ⟨type, subtype, suffix⟩
      else none
  | _ => none

/-- Whether a body of this type is **JSON**: by its subtype or by its suffix. -/
def isJson (mediaType : MediaType) : Bool :=
  let json := ['j', 's', 'o', 'n']
  mediaType.type == "application".toList &&
    (mediaType.subtype == json || mediaType.suffix == some json)

end MediaType

end LogFilter.Http
