import LogFilter.Decimal.Reading
import LogFilter.Settings.Fault
import LogFilter.Text.LowerCase

/-!
# Conversion of Settings

A setting is taken from a value of any kind that has a meaning for it: a text from everything
that can be printed, a boolean from every number, an integer from a double by rounding, and
each of them from a text that tells it.

## Main definitions

* `Kind`: how values of one type are taken from atoms.
* `Kind.text`, `Kind.boolean`, `Kind.integer`: the kinds of settings.
* `Kind.take`: a value of a kind, taken from what is set for a key.
-/

namespace LogFilter.Settings

/-- The boolean that a text in small letters tells. -/
def booleanWord? (letters : String) : Option Bool :=
  if letters = "true" ∨ letters = "yes" ∨ letters = "on" then some true
  else if letters = "false" ∨ letters = "no" ∨ letters = "off" then some false
  else none

/-- What an atom is refused as: a value and what is wanted in its place. -/
abbrev Refusal := Atom × Wanted

/-- How values of one type are **taken from atoms**. -/
structure Kind (α : Type) where
  /-- What is wanted in the place of a list or table. -/
  wanted : Wanted
  ofAtom : Atom → Except Refusal α

namespace Kind

/-- A text, from everything that can be printed. -/
def text : Kind String where
  wanted := .text
  ofAtom
    | .text content => .ok content
    | .boolean value => .ok (if value then "true" else "false")
    | .integer value => .ok (toString value)
    | .double bits => .ok (plainDouble bits)
    | .null => .error (.null, .text)

/-- A boolean: a number is true unless it is zero. -/
def boolean : Kind Bool where
  wanted := .boolean
  ofAtom
    | .boolean value => .ok value
    | .integer value => .ok (value != 0)
    | .double bits =>
        match FloatParts.ofBits bits with
        | .zero _ => .ok false
        | _ => .ok true
    | .text content =>
        let letters := Text.lowerCase content
        match letters, booleanWord? letters with
        | "1", _ => .ok true
        | "0", _ => .ok false
        | _, some value => .ok value
        | _, none => .error (.text letters, .boolean)
    | .null => .error (.null, .boolean)

end Kind

/-- The **integers of one width**, and what a message calls them. -/
structure Width where
  range : IntegerRange
  wanted : Wanted

/-- Integers of 64 bits with a sign. -/
def Width.signed : Width := ⟨signed64, .signed⟩

/-- Integers of 64 bits without a sign. -/
def Width.unsigned : Width := ⟨unsigned64, .unsigned⟩

/-- The integer of a width that a text tells. A width without a sign admits none, not even in
front of zero. -/
def Width.ofText? (width : Width) (text : String) : Option Int :=
  if 0 ≤ width.range.low ∧ text.toList.head? = some '-' then none
  else (readInteger? text).filter width.range.contains

/-- The integer of a width that is **nearest to a double**, a half going away from zero. What
is no number counts as zero. -/
def Width.ofDouble (width : Width) (bits : UInt64) : Int :=
  match FloatParts.ofBits bits with
  | .nan | .zero _ => 0
  | .infinite negative => if negative then width.range.low else width.range.high
  | .finite negative magnitude =>
      let rounded : Int := magnitude.roundAway
      width.range.clamp (if negative then -rounded else rounded)

/-- An integer of a width. -/
def Kind.integer (width : Width) : Kind Int where
  wanted := .integer
  ofAtom
    | .integer value =>
        if width.range.contains value then .ok value else .error (.integer value, width.wanted)
    | .boolean value => .ok (if value then 1 else 0)
    | .double bits => .ok (width.ofDouble bits)
    | .text content =>
        match booleanWord? (Text.lowerCase content), width.ofText? content with
        | some value, _ => .ok (if value then 1 else 0)
        | none, some value => .ok value
        | none, none => .error (.text content, .integer)
    | .null => .error (.null, .integer)

/-- A value of a kind, **taken from what is set for a key**. -/
def Kind.take {α : Type} (kind : Kind α) (tree : Tree) (key : Key) : Except Fault α :=
  match tree with
  | .atom value origin =>
      match kind.ofAtom value with
      | .ok taken => .ok taken
      | .error (found, wanted) => .error (.wrongKind (.atom found) wanted key origin)
  | .list _ origin => .error (.wrongKind .list kind.wanted key origin)
  | .table _ origin => .error (.wrongKind .table kind.wanted key origin)

end LogFilter.Settings
