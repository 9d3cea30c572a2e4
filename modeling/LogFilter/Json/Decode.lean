import LogFilter.Json.Basic
import LogFilter.Json.Document

/-!
# Decoding Documents

A decoder walks a document in the order of the text and takes from it what is wanted. The
first problem it meets is the answer, so a value of the wrong kind is reported before a fault
that comes later, and a fault before a value that comes after it.

## Main definitions

* `Json.ofDocument`: any value, nested no deeper than there is room for.
* `decodeText`, `decodeInteger`, `decodeOptional`, `decodeList`, `decodeMap`, `decodeName`:
  values of one kind.
* `decodeRecord`: a record, given as an object or as an array of its fields in order.
* `readWhole`, `readStart`: a text that is a value, and a text that begins with one.
* `readValue`: a value that has been read before.
-/

namespace LogFilter.Json

/-- A **decoder** of values of one type. -/
abbrev Decoder (α : Type) := Document → Except ReadError α

/-- What is wrong with a document of **another kind** than the one wanted: a number or a
string is read before it is refused. -/
def refusal : Document → ReadError
  | .bad fault => fault.kept
  | .string none => .malformed
  | .number none => .malformed
  | _ => .mismatch

/-- A value that is **skipped**: only its form matters, to any depth. -/
def skip : Decoder Unit
  | .array _ (some fault) | .object _ (some fault) | .bad fault => .error fault.skipped
  | _ => .ok ()

/-- The end of an array or object, which the text may not reach. -/
def closing : Option Fault → Except ReadError Unit
  | none => .ok ()
  | some fault => .error fault.kept

/-- The name of a member. -/
def memberName : Decoder String
  | .string (some name) => .ok name
  | .bad fault => .error fault.named
  | _ => .error .malformed

mutual

/-- **Any value**, with arrays and objects nested no deeper than `room`. Of members with one
name the last one counts. -/
def ofDocument (room : Nat) : Document → Except ReadError Json
  | .null => .ok .null
  | .boolean value => .ok (.boolean value)
  | .number (some value) => .ok (.number value)
  | .number none => .error .malformed
  | .string (some content) => .ok (.string content)
  | .string none => .error .malformed
  | .array items fault =>
      match room with
      | 0 => .error .malformed
      | room + 1 => do
          let items ← ofItems room items
          closing fault
          return .array items
  | .object members fault =>
      match room with
      | 0 => .error .malformed
      | room + 1 => do
          let members ← ofMembers room members
          closing fault
          return .object (lastByName members)
  | .bad fault => .error fault.kept

/-- The values of items. -/
def ofItems (room : Nat) : List Document → Except ReadError (List Json)
  | [] => .ok []
  | item :: rest => do
      let item ← ofDocument room item
      let rest ← ofItems room rest
      return item :: rest

/-- The names and values of members. -/
def ofMembers (room : Nat) : List (Document × Document) → Except ReadError (List (String × Json))
  | [] => .ok []
  | (name, value) :: rest => do
      let name ← memberName name
      let value ← ofDocument room value
      let rest ← ofMembers room rest
      return (name, value) :: rest

end

/-- A string. -/
def decodeText : Decoder String
  | .string (some content) => .ok content
  | document => .error (refusal document)

/-- A boolean. -/
def decodeBoolean : Decoder Bool
  | .boolean value => .ok value
  | document => .error (refusal document)

/-- An integer of a range; a double is none, even if it is a whole number. -/
def decodeInteger (range : IntegerRange) : Decoder Int
  | .number (some (.integer value)) =>
      if range.contains value then .ok value else .error .mismatch
  | document => .error (refusal document)

/-- A signed 64-bit integer. -/
def decodeSigned : Decoder Int := decodeInteger signed64

/-- An unsigned 64-bit integer. -/
def decodeUnsigned : Decoder Nat := fun document =>
  (decodeInteger unsigned64 document).map Int.toNat

/-- A value, or `null` for none. -/
def decodeOptional {α : Type} (decode : Decoder α) : Decoder (Option α)
  | .null => .ok none
  | document => (decode document).map some

/-- An array of values. -/
def decodeList {α : Type} (decode : Decoder α) : Decoder (List α)
  | .array items fault => do
      let values ← items.mapM decode
      closing fault
      return values
  | document => .error (refusal document)

/-- An object of values; of members with one name the last one counts. -/
def decodeMap {α : Type} (decode : Decoder α) : Decoder (NameMap α)
  | .object members fault => do
      let entries ← members.mapM fun member => do
        let name ← memberName member.1
        let value ← decode member.2
        return (name, value)
      closing fault
      return .ofList entries
  | document => .error (refusal document)

/-- One of a few named values: the name as a string, or as the only member of an object, with
`null` as its value. -/
def decodeName {α : Type} (names : List (String × α)) : Decoder α
  | .string content => do
      let name ← decodeText (.string content)
      find name
  | .object [] _ => .error .malformed
  | .object ((name, content) :: more) fault => do
      let name ← memberName name
      let value ← find name
      match content with
      | .null => pure ()
      | content => .error (refusal content)
      if more.isEmpty then closing fault else .error .malformed
      return value
  | .bad fault => .error fault.named
  | _ => .error .malformed
where
  /-- The value of a name. -/
  find (name : String) : Except ReadError α :=
    match names.lookup name with
    | some value => .ok value
    | none => .error .mismatch

/-- How one **field of a record** is read into what has been read of the record. -/
structure RecordField (σ : Type) where
  name : String
  read : Document → σ → Except ReadError σ

/-- Reads the members of an object. A field may not come twice, and members that are no
fields are skipped. -/
def readMembers {σ : Type} (fields : List (RecordField σ)) :
    List String → List (Document × Document) → σ → Except ReadError σ
  | _, [], part => .ok part
  | seen, (name, value) :: rest, part => do
      let name ← memberName name
      match fields.find? fun field => field.name == name with
      | none => do
          skip value
          readMembers fields seen rest part
      | some field =>
          if seen.contains name then .error .mismatch
          else do
            let part ← field.read value part
            readMembers fields (name :: seen) rest part

/-- Reads the items of an array as the fields in order; an item beyond the last field is an
error of form. -/
def readItems {σ : Type} : List (RecordField σ) → List Document → σ → Except ReadError σ
  | _, [], part => .ok part
  | [], _ :: _, _ => .error .malformed
  | field :: fields, item :: rest, part => do
      let part ← field.read item part
      readItems fields rest part

/-- A **record**. `finish` makes the record of what has been read, unless a field is missing
that must be there. -/
def decodeRecord {σ α : Type} (fields : List (RecordField σ)) (start : σ) (finish : σ → Option α) :
    Decoder α
  | .object members fault => do
      let part ← readMembers fields [] members start
      closing fault
      complete part
  | .array items fault => do
      let part ← readItems fields items start
      closing fault
      complete part
  | document => .error (refusal document)
where
  /-- The record, or the error of a missing field. -/
  complete (part : σ) : Except ReadError α :=
    match finish part with
    | some record => .ok record
    | none => .error .mismatch

/-- Reads a text that is **one value** and nothing else. -/
def readWhole {α : Type} (decode : Decoder α) (text : String) : Except ReadError α := do
  let (document, rest) := Document.ofText text
  let value ← decode document
  if rest.isEmpty then return value else .error .malformed

/-- Reads a text that **begins with a value**, whatever follows it. -/
def readStart {α : Type} (decode : Decoder α) (text : String) : Except ReadError α :=
  decode (Document.ofText text).1

/-- Takes what is wanted from a **value that has been read before**. -/
def readValue {α : Type} (decode : Decoder α) (value : Json) : Except ReadError α :=
  decode (Document.ofJson value)

/-- The depth to which arrays and objects are read where they are kept. -/
def maxDepth : Nat := 127

end LogFilter.Json
