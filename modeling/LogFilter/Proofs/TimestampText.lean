import LogFilter.Proofs.ByteOrder
import LogFilter.Proofs.Calendar
import LogFilter.Proofs.DecimalText
import LogFilter.Timestamp.Reader
import Mathlib.Data.List.Lex
import Mathlib.Data.String.Basic

/-!
# The Order of Timestamp Texts

The store keeps timestamps as texts and orders by these, so the order of instants is decided by
characters. Numbers of one width are ordered as their digits are, and the signs between them
stand at the same places. Only the fraction of a second has no fixed width: it is written in
groups of three digits up to the last group that is not zero, and the plus sign of the offset
that follows is smaller than the point and than every digit.

All of this needs years of four digits. A year before or after them is written with a sign, which
is smaller than every digit, so the text of a later year may be the smaller one.

## Main definitions

* `Timestamp.WrittenIn`: the form of the text, in which every number of a timestamp is read back.

## Main results

* `Timestamp.padded_append_lt`: digits of one width decide like the numbers they stand for.
* `Timestamp.text_lt_of_instant_lt`: among years of four digits the earlier instant has the
  smaller text.
* `Timestamp.writtenIn_text`: the stored text is of the form.
* `Timestamp.text_embedsOrder`: texts of years of four digits are ordered as the instants are, also
  byte by byte.
-/

namespace LogFilter.Timestamp

/-! ### Digits -/

/-- Of two digits the smaller one is the smaller character. -/
theorem digitChar_lt {m n : Nat} (hn : n < 10) (h : m < n) : m.digitChar < n.digitChar := by
  change m.digitChar.toNat < n.digitChar.toNat
  rw [Nat.toNat_digitChar_of_lt_ten (Nat.lt_trans h hn), Nat.toNat_digitChar_of_lt_ten hn]
  omega

/-- The last digit of a number of more than one digit. -/
theorem padded_succ {width : Nat} (hwidth : 0 < width) (n : Nat) :
    padded (width + 1) n = padded width (n / 10) ++ [(n % 10).digitChar] := by
  by_cases hn : n < 10
  · have hzeros : List.replicate width '0' = List.replicate (width - 1) '0' ++ ['0'] := by
      rw [← List.replicate_succ', Nat.sub_add_cancel hwidth]
    simp [padded, Nat.toDigits_of_lt_base hn, Nat.div_eq_of_lt hn, Nat.mod_eq_of_lt hn, hzeros]
  · have hdigits := Nat.toDigits_append_toDigits (by decide : 1 < 10)
      (Nat.div_pos (Nat.le_of_not_lt hn) (by decide)) (Nat.mod_lt n (by decide : 10 > 0))
    rw [Nat.div_add_mod, Nat.toDigits_of_lt_base (Nat.mod_lt n (by decide))] at hdigits
    simp only [padded, ← hdigits, List.length_append, List.length_singleton,
      Nat.add_sub_add_right, List.append_assoc]

/-- A number of one digit. -/
theorem padded_one {n : Nat} (hn : n < 10) : padded 1 n = [n.digitChar] := by
  simp [padded, Nat.toDigits_of_lt_base hn]

/-- **Numbers of one width are ordered as their digits are**, and what follows them decides
between equal ones. -/
theorem padded_append_lt {width m n : Nat} (hwidth : 0 < width) (hn : n < 10 ^ width)
    {front back : List Char} (h : m < n ∨ m = n ∧ front < back) :
    padded width m ++ front < padded width n ++ back := by
  induction width, hwidth using Nat.le_induction generalizing m n front back with
  | base =>
    rw [padded_one (by omega), padded_one (by omega)]
    refine List.cons_lt_cons_iff.mpr ?_
    rcases h with hlt | ⟨rfl, hrest⟩
    · exact .inl (digitChar_lt (by omega) hlt)
    · exact .inr ⟨rfl, hrest⟩
  | succ width hwidth ih =>
    rw [padded_succ hwidth, padded_succ hwidth, List.append_assoc, List.append_assoc]
    have hfront : n / 10 < 10 ^ width := by
      rw [Nat.pow_succ] at hn
      exact Nat.div_lt_of_lt_mul (Nat.mul_comm _ _ ▸ hn)
    refine ih hfront ?_
    rcases Nat.lt_trichotomy (m / 10) (n / 10) with hlt | heq | hgt
    · exact .inl hlt
    · refine .inr ⟨heq, List.cons_lt_cons_iff.mpr ?_⟩
      rcases h with hlt | ⟨rfl, hrest⟩
      · exact .inl (digitChar_lt (Nat.mod_lt n (by decide)) (by omega))
      · exact .inr ⟨rfl, hrest⟩
    · omega

/-- The digits of a number are its leading ones and those that follow. -/
theorem padded_add {front back : Nat} (hfront : 0 < front) (hback : 0 < back) (n : Nat) :
    padded (front + back) n = padded front (n / 10 ^ back) ++ padded back (n % 10 ^ back) := by
  induction back, hback using Nat.le_induction generalizing n with
  | base => rw [padded_succ hfront, Nat.pow_one, padded_one (Nat.mod_lt n (by decide))]
  | succ back hback ih =>
    have hlead : n / 10 / 10 ^ back = n / 10 ^ (back + 1) := by
      rw [Nat.div_div_eq_div_mul, Nat.pow_succ, Nat.mul_comm]
    have hrest : n / 10 % 10 ^ back = n % 10 ^ (back + 1) / 10 := by
      rw [Nat.pow_succ, Nat.mul_comm, Nat.mod_mul_right_div_self]
    have hlast : n % 10 = n % 10 ^ (back + 1) % 10 :=
      (Nat.mod_mod_of_dvd n (Nat.dvd_of_mod_eq_zero (by rw [Nat.pow_succ]; omega))).symm
    rw [← Nat.add_assoc, padded_succ (Nat.add_pos_left hfront back), ih, padded_succ hback, hlead,
      hrest, hlast, List.append_assoc]

/-! ### Fractions of a second -/

/-- The offset that ends every text. -/
def utcOffset : List Char := ['+', '0', '0', ':', '0', '0']

/-- A number below a power of a thousand in groups of three digits, up to the last group that is
not zero, and the offset. -/
def groups : Nat → Nat → List Char
  | 0, _ => utcOffset
  | count + 1, n =>
      if n = 0 then utcOffset else padded 3 (n / 1000 ^ count) ++ groups count (n % 1000 ^ count)

/-- The offset is smaller than every digit. -/
theorem utcOffset_lt_padded {width : Nat} (hwidth : 0 < width) {n : Nat} (hn : n < 10 ^ width)
    (rest : List Char) : utcOffset < padded width n ++ rest := by
  induction width, hwidth using Nat.le_induction generalizing n rest with
  | base =>
    rw [padded_one (by omega)]
    refine List.cons_lt_cons_iff.mpr (.inl ?_)
    change '+'.toNat < n.digitChar.toNat
    rw [Nat.toNat_digitChar_of_lt_ten (by omega)]
    exact Nat.lt_add_right n (by decide)
  | succ width hwidth ih =>
    rw [padded_succ hwidth, List.append_assoc]
    rw [Nat.pow_succ] at hn
    exact ih (Nat.div_lt_of_lt_mul (Nat.mul_comm _ _ ▸ hn)) _

/-- Groups of digits are ordered as the numbers are. -/
theorem groups_lt {count m n : Nat} (hn : n < 1000 ^ count) (h : m < n) :
    groups count m < groups count n := by
  induction count generalizing m n with
  | zero => omega
  | succ count ih =>
    have hlead : n / 1000 ^ count < 10 ^ 3 := by
      rw [Nat.pow_succ] at hn
      exact Nat.div_lt_of_lt_mul hn
    have hpos : 0 < 1000 ^ count := Nat.pow_pos (by decide)
    rw [groups, groups, if_neg (Nat.ne_of_gt (Nat.zero_lt_of_lt h))]
    split
    · exact utcOffset_lt_padded (by decide) hlead _
    · refine padded_append_lt (by decide) hlead ?_
      rcases Nat.lt_or_eq_of_le (Nat.div_le_div_right (c := 1000 ^ count) h.le) with hlt | heq
      · exact .inl hlt
      · refine .inr ⟨heq, ih (Nat.mod_lt n hpos) ?_⟩
        have hm := Nat.div_add_mod m (1000 ^ count)
        have hn := Nat.div_add_mod n (1000 ^ count)
        rw [heq] at hm
        omega

/-- A fraction is a point and its groups of digits. -/
theorem fractionText_append (n : Nat) :
    fractionText n ++ utcOffset = if n = 0 then utcOffset else '.' :: groups 3 n := by
  have hsix (k : Nat) : padded 6 k = padded 3 (k / 1000) ++ padded 3 (k % 1000) :=
    padded_add (Nat.succ_pos 2) (Nat.succ_pos 2) k
  have hnine : padded 9 n = padded 3 (n / 1000000) ++ padded 6 (n % 1000000) :=
    padded_add (Nat.succ_pos 2) (Nat.succ_pos 5) n
  have hlead : n / 1000 / 1000 = n / 1000000 := Nat.div_div_eq_div_mul n 1000 1000
  have hmiddle : n / 1000 % 1000 = n % 1000000 / 1000 := by omega
  have hlast : n % 1000000 % 1000 = n % 1000 := by omega
  unfold fractionText
  split
  · rfl
  · next hn =>
    have hgroups : groups 3 n = padded 3 (n / 1000000) ++
        if n % 1000000 = 0 then utcOffset
        else padded 3 (n % 1000000 / 1000) ++
          if n % 1000 = 0 then utcOffset else padded 3 (n % 1000) ++ utcOffset := by
      simp only [groups, if_neg hn, Nat.reducePow, hlast, Nat.div_one]
    rw [hgroups]
    split
    · rfl
    · split
      · rw [hsix, hlead, hmiddle, List.cons_append, List.append_assoc]
      · rw [hnine, hsix, hlast, List.cons_append, List.append_assoc, List.append_assoc]

/-- Fractions before the offset are ordered as the nanoseconds are. -/
theorem fractionText_append_lt {m n : Nat} (hn : n < 1000000000) (h : m < n) :
    fractionText m ++ utcOffset < fractionText n ++ utcOffset := by
  rw [fractionText_append, fractionText_append, if_neg (Nat.ne_of_gt (Nat.zero_lt_of_lt h))]
  split
  · exact List.cons_lt_cons_iff.mpr (.inl (by decide))
  · exact List.cons_lt_cons_iff.mpr (.inr ⟨rfl, groups_lt hn h⟩)

/-! ### Whole texts -/

/-- Whether the year of a timestamp has **four digits**, so that it is written without a sign. -/
def HasFourDigitYear (t : Timestamp) : Prop := 0 ≤ t.date.year ∧ t.date.year ≤ 9999

/-- The characters of a timestamp whose year has four digits, from the left to the right. -/
theorem chars_eq {t : Timestamp} (h : t.HasFourDigitYear) :
    t.chars = padded 4 t.date.year.toNat ++ '-' :: (padded 2 t.date.month ++
      '-' :: (padded 2 t.date.day ++ ' ' :: (padded 2 (t.minute / 60) ++
        ':' :: (padded 2 (t.minute % 60) ++ ':' :: (padded 2 t.second ++
          (fractionText t.nano ++ utcOffset)))))) := by
  have hyear : yearText t.date.year = padded 4 t.date.year.toNat := if_pos h
  simp only [chars, hyear, utcOffset, List.append_assoc, List.cons_append]

/-- What comes after a sign that two texts share decides between them. -/
theorem cons_lt_cons_of_lt {c : Char} {front back : List Char} (h : front < back) :
    c :: front < c :: back :=
  List.cons_lt_cons_iff.mpr (.inr ⟨rfl, h⟩)

/-- **Among years of four digits the earlier instant has the smaller text.** -/
theorem text_lt_of_instant_lt {a b : Timestamp} (ha : a.HasFourDigitYear)
    (hb : b.HasFourDigitYear) (h : a.instant < b.instant) : a.text < b.text := by
  rw [String.lt_iff_toList_lt, text, text, String.toList_ofList, String.toList_ofList, chars_eq ha,
    chars_eq hb]
  have hyears := And.intro ha hb
  unfold HasFourDigitYear at hyears
  have hmonth := b.date.month_range
  have hday := b.date.day_range
  have hdays : daysInMonth b.date.year b.date.month ≤ 31 := by
    unfold daysInMonth
    split <;> split <;> omega
  have hminute := b.minute_lt
  have hsecond := b.second_le
  refine padded_append_lt (by decide) (by omega) ?_
  rcases instant_lt_iff.mp h with hlt | ⟨hyear, h⟩
  · exact .inl (by omega)
  refine .inr ⟨by rw [hyear], cons_lt_cons_of_lt (padded_append_lt (by decide) (by omega) ?_)⟩
  rcases h with hlt | ⟨hmonth, h⟩
  · exact .inl hlt
  refine .inr ⟨hmonth, cons_lt_cons_of_lt (padded_append_lt (by decide) (by omega) ?_)⟩
  rcases h with hlt | ⟨hday, h⟩
  · exact .inl hlt
  refine .inr ⟨hday, cons_lt_cons_of_lt (padded_append_lt (by decide) (by omega) ?_)⟩
  -- The minute of the day is written as an hour and the minute in it.
  by_cases hhour : a.minute / 60 < b.minute / 60
  · exact .inl hhour
  refine .inr ⟨by omega, cons_lt_cons_of_lt (padded_append_lt (by decide) (by omega) ?_)⟩
  rcases h with hlt | ⟨hminute, h⟩
  · exact .inl (by omega)
  refine .inr ⟨by rw [hminute], cons_lt_cons_of_lt (padded_append_lt (by decide) (by omega) ?_)⟩
  rcases h with hlt | ⟨hsecond, h⟩
  · exact .inl hlt
  · exact .inr ⟨hsecond, fractionText_append_lt b.nano_lt h⟩

/-! ### The form of a text -/

/-- Whether characters are **a number in so many digits**. -/
structure IsNumber (width n : Nat) (digits : List Char) : Prop where
  length_eq : digits.length = width
  isDigit : ∀ c ∈ digits, c.isDigit = true
  value_eq : decimalValue digits = n

/-- How the nanoseconds of a second are written as **a fraction**: not at all if there are none,
and else behind a point in one to three groups of three digits, of which the last is not zero. -/
inductive IsFraction (nano : Nat) : List Char → Prop
  | none : nano = 0 → IsFraction nano []
  | groups (count : Nat) {written : Nat} {digits : List Char} : 1 ≤ count → count ≤ 3 →
      IsNumber (3 * count) written digits → written * 1000 ^ (3 - count) = nano →
      written % 1000 ≠ 0 → IsFraction nano ('.' :: digits)

/-- The form in which a timestamp is **written in a text**: `YYYY-MM-DD HH:MM:SS`, the fraction of
the second, and the offset of UTC. -/
inductive WrittenIn (t : Timestamp) (text : String) : Prop
  | intro {year month day hour minute second fraction : List Char} :
      IsNumber 4 t.date.year.toNat year → IsNumber 2 t.date.month month →
      IsNumber 2 t.date.day day → IsNumber 2 (t.minute / 60) hour →
      IsNumber 2 (t.minute % 60) minute → IsNumber 2 t.second second → IsFraction t.nano fraction →
      text.toList = year ++ '-' :: (month ++ '-' :: (day ++ ' ' :: (hour ++ ':' :: (minute ++
        ':' :: (second ++ (fraction ++ ['+', '0', '0', ':', '0', '0'])))))) → WrittenIn t text

/-- A digit is a number of one digit. -/
theorem isNumber_digitChar {digit : Nat} (h : digit < 10) : IsNumber 1 digit [digit.digitChar] := by
  have hdigits : Nat.toDigits 10 digit = [digit.digitChar] := Nat.toDigits_of_lt_base h
  refine ⟨rfl, fun c hc => isDigit_of_mem_toDigits (hdigits ▸ hc), ?_⟩
  rw [← hdigits, decimalValue_toDigits]

/-- A digit behind a number makes it ten times as large. -/
theorem IsNumber.append {width m n : Nat} {digits last : List Char} (h : IsNumber width m digits)
    (hlast : IsNumber 1 n last) : IsNumber (width + 1) (m * 10 + n) (digits ++ last) := by
  obtain ⟨c, rfl⟩ := List.length_eq_one_iff.mp hlast.length_eq
  refine ⟨?_, ?_, ?_⟩
  · rw [List.length_append, h.length_eq, List.length_singleton]
  · intro digit hdigit
    rcases List.mem_append.mp hdigit with hfront | hback
    · exact h.isDigit digit hfront
    · exact hlast.isDigit digit hback
  · have hvalue := hlast.value_eq
    rw [decimalValue, List.foldl_cons, List.foldl_nil, Nat.zero_mul, Nat.zero_add] at hvalue
    rw [decimalValue, List.foldl_append, ← decimalValue, h.value_eq, List.foldl_cons,
      List.foldl_nil, hvalue]

/-- A number that is small enough has so many digits. -/
theorem isNumber_padded {width n : Nat} (hwidth : 0 < width) (hn : n < 10 ^ width) :
    IsNumber width n (padded width n) := by
  induction width, hwidth using Nat.le_induction generalizing n with
  | base =>
    rw [padded_one (by omega)]
    exact isNumber_digitChar (by omega)
  | succ width hwidth ih =>
    have hlead : n / 10 < 10 ^ width := by
      rw [Nat.pow_succ] at hn
      exact Nat.div_lt_of_lt_mul (Nat.mul_comm _ _ ▸ hn)
    have hnumber := (ih hlead).append (isNumber_digitChar (Nat.mod_lt n (by decide)))
    rwa [Nat.mul_comm, Nat.div_add_mod, ← padded_succ hwidth] at hnumber

/-- The nanoseconds of a second are written as a fraction. -/
theorem isFraction_fractionText {nano : Nat} (h : nano < 1000000000) :
    IsFraction nano (fractionText nano) := by
  unfold fractionText
  split
  · next hnone => exact .none hnone
  · split
    · exact .groups 1 (by decide) (by decide) (isNumber_padded (by decide) (by omega))
        (by omega) (by omega)
    · split
      · exact .groups 2 (by decide) (by decide) (isNumber_padded (by decide) (by omega))
          (by omega) (by omega)
      · exact .groups 3 (by decide) (by decide) (isNumber_padded (by decide) (by omega))
          (by omega) (by omega)

/-- **The stored text is of the form**, if the year has four digits. -/
theorem writtenIn_text {t : Timestamp} (h : t.HasFourDigitYear) : t.WrittenIn t.text := by
  have hyear := h
  unfold HasFourDigitYear at hyear
  have hmonth := t.date.month_range
  have hday := t.date.day_range
  have hdays : daysInMonth t.date.year t.date.month ≤ 31 := by
    unfold daysInMonth
    split <;> split <;> omega
  have hminute := t.minute_lt
  have hsecond := t.second_le
  refine .intro (isNumber_padded (by decide) (by omega)) (isNumber_padded (by decide) (by omega))
    (isNumber_padded (by decide) (by omega)) (isNumber_padded (by decide) (by omega))
    (isNumber_padded (by decide) (by omega)) (isNumber_padded (by decide) (by omega))
    (isFraction_fractionText t.nano_lt) ?_
  rw [text, String.toList_ofList, chars_eq h]
  rfl

/-- **Timestamp text is an order embedding on years of four digits.** The stored texts of two
timestamps are of the usual form; the first instant is earlier than the second exactly if the bytes
of its text are smaller; and the texts are equal exactly if the instants are. -/
theorem text_embedsOrder {a b : Timestamp} (ha : a.HasFourDigitYear) (hb : b.HasFourDigitYear) :
    a.WrittenIn a.text ∧ b.WrittenIn b.text ∧
      (a.instant < b.instant ↔ Text.bytes a.text < Text.bytes b.text) ∧
      (a.instant = b.instant ↔ a.text = b.text) := by
  have hsame : a.instant = b.instant → a.text = b.text := fun h => congrArg text (instant_inj h)
  refine ⟨writtenIn_text ha, writtenIn_text hb, ?_, hsame, ?_⟩
  · rw [Text.bytes_lt_bytes_iff]
    refine ⟨text_lt_of_instant_lt ha hb, fun htext => ?_⟩
    rcases lt_trichotomy a.instant b.instant with hlt | heq | hgt
    · exact hlt
    · exact absurd (hsame heq) (ne_of_lt htext)
    · exact absurd (text_lt_of_instant_lt hb ha hgt) (lt_asymm htext)
  · intro htext
    rcases lt_trichotomy a.instant b.instant with hlt | heq | hgt
    · exact absurd htext (ne_of_lt (text_lt_of_instant_lt ha hb hlt))
    · exact heq
    · exact absurd htext (ne_of_gt (text_lt_of_instant_lt hb ha hgt))

/-- Two moments in one leap second: the later one has more digits behind the point, so a digit is
compared with the sign of the offset. -/
theorem text_embedsOrder_leapSecond : ∃ a b : Timestamp,
    Timestamp.read? "2016-12-31T23:59:60.5Z" = some a ∧
      Timestamp.read? "2017-01-01T00:59:60.500001+01:00" = some b ∧
      a.HasFourDigitYear ∧ b.HasFourDigitYear ∧ a.text = "2016-12-31 23:59:60.500+00:00" ∧
      b.text = "2016-12-31 23:59:60.500001+00:00" ∧ a.instant < b.instant ∧
      Text.bytes a.text < Text.bytes b.text := by
  let a : Timestamp :=
    ⟨⟨2016, 12, 31, by decide, by decide⟩, 1439, 60, 500000000, by decide, by decide, by decide⟩
  let b : Timestamp :=
    ⟨⟨2016, 12, 31, by decide, by decide⟩, 1439, 60, 500001000, by decide, by decide, by decide⟩
  have ha : a.HasFourDigitYear := ⟨by decide, by decide⟩
  have hb : b.HasFourDigitYear := ⟨by decide, by decide⟩
  have hearlier : a.instant < b.instant := instant_lt_iff.mpr (by decide)
  obtain ⟨-, -, horder, -⟩ := text_embedsOrder ha hb
  exact ⟨a, b, by decide, by decide, ha, hb, by decide, by decide, hearlier, horder.mp hearlier⟩

end LogFilter.Timestamp
