import LogFilter.Timestamp.Basic
import Mathlib.Data.Prod.Lex

/-!
# Days and Instants

A date is a year, a month and a day, and moving it by a day may change all three. This module
counts the days of the calendar (`Date.number`), so that the day after has the next number
whatever month or year it belongs to, and with them the minutes: a local time at an offset from
UTC is so many minutes later or earlier. The instant of a timestamp (`Timestamp.instant`) is its
minute of the calendar, then the second and the nanosecond in it; a minute with a leap second is
longer than others, so seconds are not counted on.

Two instants are compared by the numbers that are written down, from the year to the nanosecond.

## Main results

* `Date.number_next`, `Date.number_previous`: the days around a date.
* `Timestamp.instant_shift`: a local time moved to UTC is the same instant.
* `Timestamp.instant_lt_iff`: which of two timestamps is earlier, read from year to nanosecond.
* `Timestamp.instant_inj`: no two timestamps are one instant.
-/

namespace LogFilter

/-! ### Days -/

/-- The number of days from the first day of the year 1 to that of a year. -/
def daysBeforeYear (year : Int) : Int :=
  365 * (year - 1) + (year - 1) / 4 - (year - 1) / 100 + (year - 1) / 400

/-- The number of days of a year before a month. -/
def daysBeforeMonth (year : Int) : Nat → Nat
  | 0 => 0
  | 1 => 0
  | month + 2 => daysBeforeMonth year (month + 1) + daysInMonth year (month + 1)

/-- The number of days of a year. -/
def daysInYear (year : Int) : Nat := if isLeapYear year then 366 else 365

/-- A year begins as many days later as the year before is long. -/
theorem daysBeforeYear_succ (year : Int) :
    daysBeforeYear (year + 1) = daysBeforeYear year + daysInYear year := by
  unfold daysBeforeYear daysInYear isLeapYear
  simp only [Bool.and_eq_true, Bool.or_eq_true, decide_eq_true_eq]
  split <;> omega

/-- A year ends before any later one begins. -/
theorem daysBeforeYear_add_le {year later : Int} (h : year < later) :
    daysBeforeYear year + daysInYear year ≤ daysBeforeYear later := by
  rw [← daysBeforeYear_succ]
  unfold daysBeforeYear
  omega

/-- The twelve months make up the year. -/
theorem daysBeforeMonth_thirteen (year : Int) : daysBeforeMonth year 13 = daysInYear year := by
  simp only [daysBeforeMonth, daysInMonth, daysInYear]
  cases isLeapYear year <;> rfl

/-- A month begins as many days later as the month before is long. -/
theorem daysBeforeMonth_succ (year : Int) {month : Nat} (h : 1 ≤ month) :
    daysBeforeMonth year (month + 1) = daysBeforeMonth year month + daysInMonth year month := by
  obtain ⟨month, rfl⟩ := Nat.exists_eq_add_of_le' h
  rfl

/-- A month ends before any later one begins. -/
theorem daysBeforeMonth_add_le (year : Int) {month later : Nat} (hmonth : 1 ≤ month)
    (h : month < later) :
    daysBeforeMonth year month + daysInMonth year month ≤ daysBeforeMonth year later := by
  induction later, h using Nat.le_induction with
  | base => exact Nat.le_of_eq (daysBeforeMonth_succ year hmonth).symm
  | succ later hlater ih =>
    rw [daysBeforeMonth_succ year (Nat.le_of_succ_le (Nat.le_trans (Nat.succ_le_succ hmonth) hlater))]
    exact Nat.le_add_right_of_le ih

namespace Date

/-- The **number of a day** in the calendar: the first day of the year 1 has the number 1. -/
def number (d : Date) : Int :=
  daysBeforeYear d.year + daysBeforeMonth d.year d.month + d.day

/-- **The day after** has the next number. -/
theorem number_next (d : Date) : d.next.number = d.number + 1 := by
  obtain ⟨year, month, day, hmonth, hday⟩ := d
  unfold next
  dsimp only at hday ⊢
  split
  · simp only [number]
    omega
  · split
    · simp only [number, daysBeforeMonth_succ year hmonth.1]
      omega
    · obtain rfl : month = 12 := by omega
      have hyear := daysBeforeYear_succ year
      have hwhole := daysBeforeMonth_thirteen year
      rw [daysBeforeMonth_succ year (by decide)] at hwhole
      have hfirst : daysBeforeMonth (year + 1) 1 = 0 := rfl
      simp only [number, hyear, hfirst]
      omega

/-- **The day before** has the previous number. -/
theorem number_previous (d : Date) : d.previous.number = d.number - 1 := by
  obtain ⟨year, month, day, hmonth, hday⟩ := d
  unfold previous
  dsimp only at hday ⊢
  split
  · simp only [number]
    omega
  · split
    · next hfirst =>
      have hbefore := daysBeforeMonth_succ year (by omega : 1 ≤ month - 1)
      rw [Nat.sub_add_cancel hmonth.1] at hbefore
      simp only [number, hbefore]
      omega
    · obtain rfl : month = 1 := by omega
      have hyear := daysBeforeYear_succ (year - 1)
      rw [Int.sub_add_cancel] at hyear
      have hwhole := daysBeforeMonth_thirteen (year - 1)
      have hlast : daysBeforeMonth (year - 1) 13 = daysBeforeMonth (year - 1) 12 + 31 := rfl
      have hfirst : daysBeforeMonth year 1 = 0 := rfl
      simp only [number, hyear, hfirst]
      omega

/-- The days of a year up to a date are not more than the year has. -/
theorem daysBeforeMonth_add_day_le (d : Date) :
    daysBeforeMonth d.year d.month + d.day ≤ daysInYear d.year := by
  have hmonth := daysBeforeMonth_add_le d.year d.month_range.1 (Nat.lt_succ_of_le d.month_range.2)
  rw [daysBeforeMonth_thirteen] at hmonth
  have hday := d.day_range
  omega

/-- A date that is smaller from the year on is earlier. -/
theorem number_lt_of_lex {d e : Date}
    (h : d.year < e.year ∨ d.year = e.year ∧
      (d.month < e.month ∨ d.month = e.month ∧ d.day < e.day)) : d.number < e.number := by
  have hfirst := e.day_range.1
  unfold number
  rcases h with hyear | ⟨hyear, hmonth | ⟨hmonth, hday⟩⟩
  · have hdays := d.daysBeforeMonth_add_day_le
    have hyears := daysBeforeYear_add_le hyear
    omega
  · have hdays := d.day_range.2
    have hmonths := daysBeforeMonth_add_le d.year d.month_range.1 hmonth
    rw [← hyear]
    omega
  · rw [← hyear, ← hmonth]
    omega

/-- **Dates are counted as they are written**, from the year to the day. -/
theorem number_lt_iff {d e : Date} :
    d.number < e.number ↔ d.year < e.year ∨ d.year = e.year ∧
      (d.month < e.month ∨ d.month = e.month ∧ d.day < e.day) := by
  refine ⟨fun h => ?_, number_lt_of_lex⟩
  by_contra hnot
  rcases lt_or_eq_of_le (not_lt.mp fun hyear => hnot (.inl hyear)) with hyear | hyear
  · exact absurd h (lt_asymm (number_lt_of_lex (.inl hyear)))
  · by_cases hsame : e.month = d.month ∧ e.day = d.day
    · unfold number at h
      rw [hyear, hsame.1, hsame.2] at h
      exact absurd h (lt_irrefl _)
    · refine absurd h (lt_asymm (number_lt_of_lex (.inr ⟨hyear, ?_⟩)))
      omega

/-- No two dates have one number. -/
theorem number_inj {d e : Date} (h : d.number = e.number) : d = e := by
  have hde : ¬d.number < e.number := by omega
  have hed : ¬e.number < d.number := by omega
  rw [number_lt_iff] at hde hed
  obtain ⟨year, month, day, _, _⟩ := d
  obtain ⟨year', month', day', _, _⟩ := e
  dsimp only at hde hed
  obtain rfl : year = year' := by omega
  obtain rfl : month = month' := by omega
  obtain rfl : day = day' := by omega
  rfl

end Date

/-! ### Instants -/

/-- An **instant**: the minute of the calendar, and in it the second and the nanosecond. -/
abbrev Instant := Int ×ₗ Nat ×ₗ Nat

namespace Timestamp

/-- The minute of the calendar in which a timestamp lies. -/
def minutes (t : Timestamp) : Int := 1440 * t.date.number + t.minute

/-- The **instant of a local time** at an offset from UTC, which is given in minutes east. -/
def instantAt (wallClock : Timestamp) (offset : Int) : Instant :=
  toLex (wallClock.minutes - offset, toLex (wallClock.second, wallClock.nano))

/-- The **instant of a timestamp** in UTC. -/
def instant (t : Timestamp) : Instant := t.instantAt 0

/-- A minute that reaches over the ends of its day is counted on the day that it falls on. -/
theorem number_wrapMinute (date : Date) (minute : Int) (low : -1440 ≤ minute) :
    1440 * (wrapMinute date minute).1.number + (wrapMinute date minute).2 =
      1440 * date.number + minute := by
  unfold wrapMinute
  split
  · rw [Date.number_previous]
    omega
  · split
    · rw [Date.number_next]
      omega
    · dsimp only
      omega

/-- **A local time moved to UTC is the same instant.** -/
theorem instant_shift (wallClock : Timestamp) (offset : Int)
    (h : -1440 < offset ∧ offset < 1440) :
    (wallClock.shift offset h).instant = wallClock.instantAt offset := by
  have hminutes := number_wrapMinute wallClock.date (wallClock.minute - offset) (by omega)
  have hsame : (wallClock.shift offset h).minutes - 0 = wallClock.minutes - offset := by
    simp only [minutes, shift]
    omega
  unfold instant instantAt
  rw [hsame]
  rfl

/-- **The earlier one of two timestamps** is the one that is smaller from the year to the
nanosecond. -/
theorem instant_lt_iff {a b : Timestamp} :
    a.instant < b.instant ↔ a.date.year < b.date.year ∨ a.date.year = b.date.year ∧
      (a.date.month < b.date.month ∨ a.date.month = b.date.month ∧
        (a.date.day < b.date.day ∨ a.date.day = b.date.day ∧
          (a.minute < b.minute ∨ a.minute = b.minute ∧
            (a.second < b.second ∨ a.second = b.second ∧ a.nano < b.nano)))) := by
  have ha := a.minute_lt
  have hb := b.minute_lt
  have hearlier := Date.number_lt_iff (d := a.date) (e := b.date)
  have hlater := Date.number_lt_iff (d := b.date) (e := a.date)
  unfold instant instantAt minutes
  rw [Prod.Lex.toLex_lt_toLex, Prod.Lex.toLex_lt_toLex]
  dsimp only
  omega

/-- **No two timestamps are one instant.** -/
theorem instant_inj {a b : Timestamp} (h : a.instant = b.instant) : a = b := by
  have hab : ¬a.instant < b.instant := by rw [h]; exact lt_irrefl _
  have hba : ¬b.instant < a.instant := by rw [h]; exact lt_irrefl _
  rw [instant_lt_iff] at hab hba
  have hdate : a.date = b.date := by
    refine Date.number_inj ?_
    have hearlier := Date.number_lt_iff (d := a.date) (e := b.date)
    have hlater := Date.number_lt_iff (d := b.date) (e := a.date)
    omega
  obtain ⟨date, minute, second, nano, _, _, _⟩ := a
  obtain ⟨date', minute', second', nano', _, _, _⟩ := b
  dsimp only at hdate hab hba
  subst hdate
  obtain rfl : minute = minute' := by omega
  obtain rfl : second = second' := by omega
  obtain rfl : nano = nano' := by omega
  rfl

end Timestamp

end LogFilter
