import LogFilter.Decimal.Reading

/-!
# Integers in Decimal

The decimal text of an integer is a minus sign, if it is negative, and digits without a zero in
front. Reading the digits gives the number back, so two integers with one text are equal.

## Main results

* `decimalValue_toDigits`: digits are read as the number that they are written for.
* `exists_toDigits_eq_cons`: only zero begins with a zero.
* `toList_toString_int`: the text of an integer.
* `toString_int_inj`: the text tells the integer.
-/

namespace LogFilter

/-! ### Digits -/

/-- Every digit of a number is one. -/
theorem isDigit_of_mem_toDigits {n : Nat} {c : Char} (h : c ∈ Nat.toDigits 10 n) :
    c.isDigit = true :=
  Nat.isDigit_of_mem_toDigits (by decide) (by decide) h

/-- **Digits are read as the number** that they are written for. -/
@[simp] theorem decimalValue_toDigits (n : Nat) : decimalValue (Nat.toDigits 10 n) = n := by
  have hread : decimalValue (Nat.toDigits 10 n) = Nat.ofDigitChars 10 (Nat.toDigits 10 n) 0 := by
    simp only [decimalValue, Nat.ofDigitChars, Nat.mul_comm 10]
  rw [hread, Nat.ofDigitChars_ten_toDigits]

/-- The digits tell the number. -/
theorem toDigits_inj {m n : Nat} (h : Nat.toDigits 10 m = Nat.toDigits 10 n) : m = n := by
  rw [← decimalValue_toDigits m, h, decimalValue_toDigits]

/-- A number other than zero does not begin with a zero. -/
theorem exists_toDigits_eq_cons {n : Nat} (h : n ≠ 0) :
    ∃ c rest, Nat.toDigits 10 n = c :: rest ∧ c ≠ '0' := by
  induction n using Nat.strongRecOn with
  | ind n ih =>
    by_cases hsmall : n < 10
    · exact ⟨n.digitChar, [], Nat.toDigits_of_lt_base hsmall, by simpa using h⟩
    · have hlarge : 10 ≤ n := Nat.le_of_not_lt hsmall
      obtain ⟨c, rest, hdigits, hne⟩ := ih (n / 10) (by omega) (by omega)
      refine ⟨c, rest ++ [(n % 10).digitChar], ?_, hne⟩
      rw [Nat.toDigits_of_base_le (by decide) hlarge, hdigits, List.cons_append]

/-! ### Integers -/

/-- **The text of an integer**: a minus sign if it is negative, and the digits. -/
theorem toList_toString_int (n : Int) :
    (toString n).toList = (if n < 0 then ['-'] else []) ++ Nat.toDigits 10 n.natAbs := by
  cases n with
  | ofNat n =>
    have hsign : ¬Int.ofNat n < 0 := Int.not_lt.mpr (Int.natCast_nonneg n)
    rw [if_neg hsign, List.nil_append]
    exact Nat.toList_repr
  | negSucc n =>
    have htext : toString (Int.negSucc n) = "-" ++ (n + 1).repr := rfl
    rw [if_pos (Int.negSucc_lt_zero n), htext, String.toList_append, Nat.toList_repr]
    rfl

/-- The text of an integer is not empty. -/
theorem toString_int_ne_empty (n : Int) : toString n ≠ "" := by
  intro h
  have hlist := congrArg String.toList h
  rw [toList_toString_int, String.toList_empty, List.append_eq_nil_iff] at hlist
  exact Nat.toDigits_ne_nil hlist.2

/-- A minus sign is no digit. -/
theorem minus_notMem_toDigits (n : Nat) : '-' ∉ Nat.toDigits 10 n :=
  fun h => absurd (isDigit_of_mem_toDigits h) (by decide)

/-- **The text of an integer tells the integer.** -/
theorem toString_int_inj {m n : Int} : toString m = toString n ↔ m = n := by
  refine ⟨fun h => ?_, fun h => h ▸ rfl⟩
  have hlist := congrArg String.toList h
  rw [toList_toString_int, toList_toString_int] at hlist
  by_cases hm : m < 0 <;> by_cases hn : n < 0 <;>
    simp only [hm, hn, if_true, if_false, List.cons_append, List.nil_append] at hlist
  · have hdigits := toDigits_inj (List.cons.inj hlist).2
    omega
  · exact absurd (hlist ▸ List.mem_cons_self) (minus_notMem_toDigits n.natAbs)
  · exact absurd (hlist.symm ▸ List.mem_cons_self) (minus_notMem_toDigits m.natAbs)
  · have hdigits := toDigits_inj hlist
    omega

end LogFilter
