/-!
# Timestamps

A timestamp is a moment of the Gregorian calendar in UTC, to the nanosecond. The year has no
bounds of its own. A leap second is the sixtieth second of its minute.

## Main definitions

* `Date`: a day of the calendar, with `Date.next` and `Date.previous`.
* `Timestamp`: a moment of a day.
* `Timestamp.shift`: a local time moved to UTC.
* `Timestamp.text`: the text in which a timestamp is stored.
-/

namespace LogFilter

/-- Whether a year has a leap day. -/
def isLeapYear (year : Int) : Bool :=
  year % 4 = 0 && (year % 100 ≠ 0 || year % 400 = 0)

/-- The number of days in a month of a year. -/
def daysInMonth (year : Int) (month : Nat) : Nat :=
  if month = 2 then if isLeapYear year then 29 else 28
  else if month = 4 ∨ month = 6 ∨ month = 9 ∨ month = 11 then 30
  else 31

/-- Every month has a day. -/
theorem daysInMonth_pos (year : Int) (month : Nat) : 1 ≤ daysInMonth year month := by
  unfold daysInMonth
  split <;> split <;> omega

/-- A **day of the calendar**. -/
structure Date where
  year : Int
  month : Nat
  day : Nat
  month_range : 1 ≤ month ∧ month ≤ 12
  day_range : 1 ≤ day ∧ day ≤ daysInMonth year month
  deriving DecidableEq, Repr

namespace Date

/-- The date of a year, month and day, if there is such a day. -/
def ofNumbers? (year : Int) (month day : Nat) : Option Date :=
  if h : (1 ≤ month ∧ month ≤ 12) ∧ 1 ≤ day ∧ day ≤ daysInMonth year month then
    some ⟨year, month, day, h.1, h.2⟩
  else none

/-- The day after. -/
def next (d : Date) : Date :=
  if h : d.day < daysInMonth d.year d.month then
    ⟨d.year, d.month, d.day + 1, d.month_range, by omega⟩
  else if h : d.month < 12 then
    ⟨d.year, d.month + 1, 1, by omega, le_refl_days d.year (d.month + 1)⟩
  else ⟨d.year + 1, 1, 1, by omega, le_refl_days (d.year + 1) 1⟩
where
  /-- The first day of a month is a day of it. -/
  le_refl_days (year : Int) (month : Nat) : 1 ≤ 1 ∧ 1 ≤ daysInMonth year month :=
    ⟨Nat.le_refl 1, daysInMonth_pos year month⟩

/-- The day before. -/
def previous (d : Date) : Date :=
  if h : 1 < d.day then
    ⟨d.year, d.month, d.day - 1, d.month_range, by have := d.day_range; omega⟩
  else if h : 1 < d.month then
    ⟨d.year, d.month - 1, daysInMonth d.year (d.month - 1), by have := d.month_range; omega,
      daysInMonth_pos _ _, Nat.le_refl _⟩
  else ⟨d.year - 1, 12, 31, by omega, by omega, Nat.le_refl 31⟩

end Date

/-- A **moment in UTC**. -/
structure Timestamp where
  date : Date
  /-- The minute of the day. -/
  minute : Nat
  second : Nat
  nano : Nat
  minute_lt : minute < 1440
  second_le : second ≤ 60
  nano_lt : nano < 1000000000
  deriving DecidableEq, Repr

namespace Timestamp

/-- A minute of a day, counted from its start and reaching over its ends by less than a day,
as a minute of the day that it falls on. -/
def wrapMinute (date : Date) (minute : Int) : Date × Nat :=
  if minute < 0 then (date.previous, (minute + 1440).toNat)
  else if 1440 ≤ minute then (date.next, (minute - 1440).toNat)
  else (date, minute.toNat)

/-- A minute that is off by less than a day is **brought back into a day**. -/
theorem wrapMinute_lt (date : Date) {minute : Int} (low : -1440 ≤ minute)
    (high : minute < 2880) : (wrapMinute date minute).2 < 1440 := by
  unfold wrapMinute
  split
  · show (minute + 1440).toNat < 1440
    omega
  · split
    · show (minute - 1440).toNat < 1440
      omega
    · show minute.toNat < 1440
      omega

/-- A **local time as a moment in UTC**. The offset is in minutes east of UTC and less than a
day. -/
def shift (wallClock : Timestamp) (offset : Int) (h : -1440 < offset ∧ offset < 1440) :
    Timestamp where
  date := (wrapMinute wallClock.date (wallClock.minute - offset)).1
  minute := (wrapMinute wallClock.date (wallClock.minute - offset)).2
  second := wallClock.second
  nano := wallClock.nano
  minute_lt := wrapMinute_lt _ (by omega) (by have := wallClock.minute_lt; omega)
  second_le := wallClock.second_le
  nano_lt := wallClock.nano_lt

/-- A number with zeros in front, up to a width. -/
def padded (width n : Nat) : List Char :=
  let digits := Nat.toDigits 10 n
  List.replicate (width - digits.length) '0' ++ digits

/-- A year: four digits, and a sign where that is not enough. -/
def yearText (year : Int) : List Char :=
  if 0 ≤ year ∧ year ≤ 9999 then padded 4 year.toNat
  else (if year < 0 then '-' else '+') :: padded 4 year.natAbs

/-- A fraction of a second: nothing, or a point and three, six or nine digits, the fewest
that are exact. -/
def fractionText (nano : Nat) : List Char :=
  if nano = 0 then []
  else if nano % 1000000 = 0 then '.' :: padded 3 (nano / 1000000)
  else if nano % 1000 = 0 then '.' :: padded 6 (nano / 1000)
  else '.' :: padded 9 nano

/-- The characters of the stored text. -/
def chars (t : Timestamp) : List Char :=
  yearText t.date.year ++ '-' :: padded 2 t.date.month ++ '-' :: padded 2 t.date.day ++
    ' ' :: padded 2 (t.minute / 60) ++ ':' :: padded 2 (t.minute % 60) ++
    ':' :: padded 2 t.second ++ fractionText t.nano ++ ['+', '0', '0', ':', '0', '0']

/-- The **text in which a timestamp is stored**: date and time in UTC, then the offset. -/
def text (t : Timestamp) : String := String.ofList t.chars

end Timestamp

end LogFilter
