import LogFilter.Decimal.Reading
import LogFilter.Timestamp.Basic

/-!
# Dates and Times in TOML

A document may hold a date, a time of day, or both, and then an offset from UTC. Where a text
is wanted, a moment stands for the text of its usual form: a `T` between date and time, and
no needless zeros at the end of the fraction of a second.

## Main definitions

* `momentText?`: the usual form of the moment that a word gives.
-/

namespace LogFilter.Toml

open Timestamp (padded)

/-- A part of a moment: its usual form, and the text after it. -/
abbrev MomentPart := Option (List Char × List Char)

/-- A number of exactly so many digits, and the text after it. -/
def number? (count : Nat) (text : List Char) : Option (Nat × List Char) :=
  let digits := text.takeWhile Char.isDigit
  if digits.length = count then some (decimalValue digits, text.drop count) else none

/-- A number of two digits up to a bound behind a given sign. -/
def behind? (sign : Char) (high : Nat) : List Char → Option (Nat × List Char)
  | [] => none
  | c :: rest =>
      if c = sign then (number? 2 rest).filter fun (value, _) => value ≤ high else none

/-- A date. -/
def dateText? (text : List Char) : MomentPart := do
  let (year, rest) ← number? 4 text
  let (month, rest) ← behind? '-' 12 rest
  let (day, rest) ← behind? '-' 31 rest
  let date ← Date.ofNumbers? year month day
  some (padded 4 year ++ '-' :: padded 2 date.month ++ '-' :: padded 2 date.day, rest)

/-- The fraction of a second, of which nine digits count. One digit is left of zeros alone. -/
def fractionText? : List Char → MomentPart
  | '.' :: rest =>
      let digits := rest.takeWhile Char.isDigit
      let counted := ((digits.take 9).reverse.dropWhile (· = '0')).reverse
      if digits.isEmpty then none
      else some ('.' :: (if counted.isEmpty then ['0'] else counted), rest.drop digits.length)
  | rest => some ([], rest)

/-- The seconds of a time, which may be left out. -/
def secondsText? : List Char → MomentPart
  | ':' :: rest => do
      let (second, rest) ← behind? ':' 60 (':' :: rest)
      let (fraction, rest) ← fractionText? rest
      some (':' :: padded 2 second ++ fraction, rest)
  | rest => some ([], rest)

/-- A time of day. -/
def timeText? (text : List Char) : MomentPart := do
  let (hour, rest) ← (number? 2 text).filter fun (value, _) => value ≤ 23
  let (minute, rest) ← behind? ':' 59 rest
  let (seconds, rest) ← secondsText? rest
  some (padded 2 hour ++ ':' :: padded 2 minute ++ seconds, rest)

/-- An offset from UTC; no offset lies west of it by nothing. -/
def offsetText? : List Char → MomentPart
  | 'Z' :: rest | 'z' :: rest => some (['Z'], rest)
  | '+' :: rest => amount? '+' rest
  | '-' :: rest => amount? '-' rest
  | rest => some ([], rest)
where
  /-- Hours and minutes. -/
  amount? (sign : Char) (text : List Char) : MomentPart := do
    let (hours, rest) ← (number? 2 text).filter fun (value, _) => value ≤ 23
    let (minutes, rest) ← behind? ':' 59 rest
    let sign := if hours = 0 ∧ minutes = 0 then '+' else sign
    some (sign :: padded 2 hours ++ ':' :: padded 2 minutes, rest)

/-- A date with what may follow it: a time, and then an offset. -/
def fromDateText? (text : List Char) : MomentPart := do
  let (date, rest) ← dateText? text
  match rest with
  | 'T' :: rest | 't' :: rest | ' ' :: rest => do
      let (time, rest) ← timeText? rest
      let (offset, rest) ← offsetText? rest
      some (date ++ 'T' :: time ++ offset, rest)
  | rest => some (date, rest)

/-- The **usual form of the moment that a word gives**, which must be the whole of it. -/
def momentText? (word : List Char) : Option String :=
  let part := if (word.dropWhile Char.isDigit).head? = some ':' then timeText? word
    else fromDateText? word
  match part with
  | some (text, []) => some (String.ofList text)
  | _ => none

end LogFilter.Toml
