import LogFilter.Json.Decode
import LogFilter.Text.Blank
import LogFilter.Timestamp.Basic

/-!
# Reading Timestamps

A timestamp is given as a date, a time and an offset from UTC, in the order of the numbers
that everyone uses but with some freedom: blanks may stand before a number and around the
signs between numbers, and a number may have fewer digits than usual.

## Main definitions

* `Timestamp.read?`: the moment that a text gives.
* `Timestamp.decode`: a timestamp given as a JSON string.
-/

namespace LogFilter

open Text

namespace Timestamp

/-- A number of one digit up to `limit` digits, and the text after it. -/
def digits? (limit : Nat) (text : List Char) : Option (Nat × List Char) :=
  let digits := (text.take limit).takeWhile Char.isDigit
  if digits.isEmpty then none
  else some (decimalValue digits, text.drop digits.length)

/-- The text after a given sign, which blanks may precede. -/
def sign? (sign : Char) (text : List Char) : Option (List Char) :=
  match skipBlanks text with
  | [] => none
  | c :: rest => if c = sign then some rest else none

/-- A number of at most two digits between two bounds, which blanks may precede. -/
def field? (low high : Nat) (text : List Char) : Option (Nat × List Char) := do
  let (value, rest) ← digits? 2 (skipBlanks text)
  if low ≤ value ∧ value ≤ high then some (value, rest) else none

/-- A year: at most four digits, or a sign and any number of digits. -/
def year? (text : List Char) : Option (Int × List Char) :=
  match skipBlanks text with
  | '-' :: rest => (digits? rest.length rest).map fun (value, rest) => (-value, rest)
  | '+' :: rest => (digits? rest.length rest).map fun (value, rest) => (value, rest)
  | text => (digits? 4 text).map fun (value, rest) => (value, rest)

/-- The first and the last year that can be given. -/
def yearRange : Int × Int := (-262143, 262142)

/-- Whether a date lies in the years that can be given. -/
def inYears (date : Date) : Bool :=
  yearRange.1 ≤ date.year && date.year ≤ yearRange.2

/-- A date. -/
def date? (text : List Char) : Option (Date × List Char) := do
  let (year, rest) ← year? text
  let (month, rest) ← field? 1 12 (← sign? '-' rest)
  let (day, rest) ← field? 1 31 (← sign? '-' rest)
  let date ← Date.ofNumbers? year month day
  if inYears date then some (date, rest) else none

/-- A fraction of a second in nanoseconds; digits after the ninth do not count. -/
def nanos? (text : List Char) : Option (Nat × List Char) :=
  match text with
  | '.' :: rest => do
      let (_, after) ← digits? rest.length rest
      let digits := (rest.take 9).takeWhile Char.isDigit
      some (decimalValue digits * tenTo (9 - digits.length), after)
  | text => some (0, text)

/-- An offset from UTC in minutes: the letters `UTC` or `Z`, or a sign, two digits of hours
and two digits of minutes with any colons and blanks between. -/
def offset? (text : List Char) : Option (Int × List Char) :=
  match text with
  | 'z' :: rest | 'Z' :: rest => some (0, rest)
  | '+' :: rest => amount? rest
  | '-' :: rest | '\u2212' :: rest => (amount? rest).map fun (minutes, rest) => (-minutes, rest)
  | u :: t :: c :: rest =>
      if [u, t, c].map Char.toUpper = ['U', 'T', 'C'] then some (0, rest) else none
  | _ => none
where
  /-- Hours and minutes. -/
  amount? (text : List Char) : Option (Int × List Char) := do
    let (hours, rest) ← pair? text
    let (minutes, rest) ← pair? (rest.dropWhile fun c => c = ':' || isWhiteSpace c)
    if minutes ≤ 59 then some (hours * 60 + minutes, rest) else none
  /-- A number of exactly two digits. -/
  pair? (text : List Char) : Option (Nat × List Char) :=
    match text with
    | a :: b :: rest =>
        if a.isDigit ∧ b.isDigit then some (decimalValue [a, b], rest) else none
    | _ => none

/-- The moment that a text gives, and the text after it. -/
def moment? (text : List Char) : Option (Timestamp × List Char) := do
  let (date, rest) ← date? text
  let rest ← match rest with
    | 'T' :: rest | 't' :: rest | ' ' :: rest => some rest
    | _ => none
  let (hour, rest) ← field? 0 23 rest
  let (minute, rest) ← field? 0 59 (← sign? ':' rest)
  let (second, rest) ← field? 0 60 (← sign? ':' rest)
  let (nano, rest) ← nanos? rest
  let (offset, rest) ← offset? (skipBlanks rest)
  if h : (60 * hour + minute < 1440 ∧ second ≤ 60 ∧ nano < 1000000000) ∧
      -1440 < offset ∧ offset < 1440 then
    let moment := shift ⟨date, 60 * hour + minute, second, nano, h.1.1, h.1.2.1, h.1.2.2⟩
      offset h.2
    if inYears moment.date then some (moment, rest) else none
  else none

/-- The **moment that a text gives**; only blanks may follow it. -/
def read? (text : String) : Option Timestamp := do
  let (moment, rest) ← moment? text.toList
  if (skipBlanks rest).isEmpty then some moment else none

/-- Reads a **timestamp** given as a string. -/
def decode : Json.Decoder Timestamp := fun document => do
  match read? (← Json.decodeText document) with
  | some moment => return moment
  | none => .error .mismatch

end Timestamp

end LogFilter
