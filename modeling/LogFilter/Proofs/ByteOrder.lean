import Mathlib.Data.String.Basic
import Mathlib.Data.UInt

/-!
# The Order of Bytes

Texts are compared by their code points, letter by letter, while a database compares the bytes
in which they are written. In UTF-8 this makes no difference: the bytes of the smaller one of two
code points are smaller at the first place where the two forms differ, and neither form begins
with the other, so whatever follows the two code points does not matter.

## Main results

* `Text.utf8EncodeChar_append_lt`: the first characters that differ decide about the bytes.
* `Text.bytes_lt_bytes_iff`: texts are ordered as their bytes are.
-/

namespace LogFilter.Text

/-- The **bytes of a text** in UTF-8. -/
def bytes (text : String) : List UInt8 := text.toUTF8.data.toList

/-- The bytes of a text are those of its characters, one after the other. -/
theorem bytes_eq_flatMap (text : String) :
    bytes text = text.toList.flatMap String.utf8EncodeChar := by
  rw [bytes, String.toUTF8, ← String.utf8Encode_toList, List.utf8Encode, List.data_toByteArray]

/-- Bytes that are given by numbers are compared by these. -/
theorem ofNat_cons_lt_iff {m n : Nat} (hm : m < 256) (hn : n < 256) {front back : List UInt8} :
    UInt8.ofNat m :: front < UInt8.ofNat n :: back ↔ m < n ∨ m = n ∧ front < back := by
  have heq : UInt8.ofNat m = UInt8.ofNat n ↔ m = n := by
    rw [← UInt8.toNat_inj, UInt8.toNat_ofNat_of_lt' hm, UInt8.toNat_ofNat_of_lt' hn]
  rw [List.cons_lt_cons_iff, UInt8.ofNat_lt_iff_lt hm hn, heq]

/-- **Of two characters the smaller one has the smaller bytes**, whatever follows them. -/
theorem utf8EncodeChar_append_lt {c d : Char} (h : c < d) (front back : List UInt8) :
    String.utf8EncodeChar c ++ front < String.utf8EncodeChar d ++ back := by
  have hval : c.val.toNat < d.val.toNat := h
  have hmax : d.val.toNat < 1114112 := by
    rcases d.valid with hlow | ⟨-, hhigh⟩
    · exact Nat.lt_trans hlow (by decide)
    · exact hhigh
  unfold String.utf8EncodeChar
  generalize c.val.toNat = m at hval
  generalize d.val.toNat = n at hval hmax
  have hsixths (k : Nat) (hk : k < 1114112) :
      k / 64 / 64 = k / 4096 ∧ k / 4096 / 64 = k / 262144 ∧ k / 262144 % 8 = k / 262144 := by
    refine ⟨Nat.div_div_eq_div_mul k 64 64, Nat.div_div_eq_div_mul k 4096 64, ?_⟩
    exact Nat.mod_eq_of_lt (by omega)
  have hm := hsixths m (Nat.lt_trans hval hmax)
  have hn := hsixths n hmax
  dsimp only
  -- Forms of two lengths differ in their first bytes; in forms of one length the bits of the
  -- code point are read from the highest to the lowest.
  split_ifs <;> simp (disch := omega) only [List.cons_append, List.nil_append,
    ofNat_cons_lt_iff] <;> omega

/-- The bytes of the smaller one of two lists of characters are smaller. -/
theorem flatMap_utf8EncodeChar_lt {front back : List Char} (h : front < back) :
    front.flatMap String.utf8EncodeChar < back.flatMap String.utf8EncodeChar := by
  induction h with
  | nil =>
    rw [List.flatMap_cons]
    obtain ⟨byte, bytes, hbytes⟩ := List.exists_cons_of_ne_nil (String.utf8EncodeChar_ne_nil)
    rw [hbytes]
    exact List.Lex.nil
  | rel hlt => exact utf8EncodeChar_append_lt hlt _ _
  | cons _ ih => exact List.append_left_lt ih

/-- **Texts are ordered as their bytes are.** -/
theorem bytes_lt_bytes_iff {a b : String} : bytes a < bytes b ↔ a < b := by
  have hlt {a b : String} (h : a < b) : bytes a < bytes b := by
    rw [bytes_eq_flatMap, bytes_eq_flatMap]
    exact flatMap_utf8EncodeChar_lt (String.lt_iff_toList_lt.mp h)
  refine ⟨fun h => ?_, hlt⟩
  rcases lt_trichotomy a b with hab | rfl | hba
  · exact hab
  · exact absurd h (List.lt_irrefl _)
  · exact absurd (hlt hba) (List.lt_asymm h)

end LogFilter.Text
