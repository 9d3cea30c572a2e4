import LogFilter.Proofs.PatternMatching
import Mathlib.Data.List.TakeWhile

/-!
# Searching for a Literal Substring

A search for a value puts it between two percent signs. Either the value is put there as it is,
and its own wildcards keep their meaning, or a backslash is written before each of its special
characters. In the second case every character of the value becomes an item that stands for
itself, and the closing percent sign is never escaped, since backslashes come before a character
and never alone. So the pattern matches the texts in which the value occurs.

Pattern and text both end at their first NUL. A value with a NUL takes the closing percent sign
with it, and what is left of the value has to stand at the end of the text.

Characters are compared as the matcher reads them. The two code points at the end of the basic
plane that are no characters are read as the replacement character, so of these three each is
found where another one stands.

## Main definitions

* `beforeNul`: characters up to their first NUL.
* `OccursAs`: whether a value occurs in a text, as its characters are read.
* `ReadAsItself`: whether all characters of a text are read as themselves.

## Main results

* `LikePattern.items?_containing`, `LikePattern.items?_containingLiteral`: the items of the two
  patterns of a value.
* `readAsItself_iff`: which texts are read as something else.
* `LikePattern.matches_containingLiteral_iff`: the escaped pattern matches where the value occurs.
* `LikePattern.containingLiteral_finds`: a search for a literal substring finds it and nothing else.
* `LikePattern.containingLiteral_finds_lookalike`: a value that is found where it does not occur.
-/

namespace LogFilter.Sql

/-! ### Characters up to a NUL -/

/-- Characters **up to their first NUL**. -/
def beforeNul (cs : List Char) : List Char :=
  cs.takeWhile fun c => c ≠ '\x00'

/-- A character that is no NUL stays. -/
theorem beforeNul_cons_of_ne {c : Char} (h : c ≠ '\x00') (cs : List Char) :
    beforeNul (c :: cs) = c :: beforeNul cs :=
  List.takeWhile_cons_of_pos (decide_eq_true h)

/-- What is matched of a text are the characters up to its first NUL, as they are read. -/
theorem matchedChars_eq (text : String) :
    matchedChars text = (beforeNul text.toList).map matched := rfl

/-- Characters without a NUL stay as they are. -/
theorem beforeNul_of_notMem {cs : List Char} (h : '\x00' ∉ cs) : beforeNul cs = cs := by
  refine List.takeWhile_eq_self_iff.mpr fun c hc => decide_eq_true ?_
  rintro rfl
  exact h hc

/-- What comes behind a NUL does not matter, and what comes behind other characters does up to
its own NUL. -/
theorem beforeNul_append (front back : List Char) :
    beforeNul (front ++ back) =
      beforeNul front ++ if '\x00' ∈ front then [] else beforeNul back := by
  induction front with
  | nil => simp [beforeNul]
  | cons c front ih =>
    by_cases hc : c = '\x00'
    · subst hc
      simp [beforeNul]
    · rw [List.cons_append, beforeNul_cons_of_ne hc, beforeNul_cons_of_ne hc, ih]
      simp [Ne.symm hc]

/-! ### Reading characters -/

/-- What a character is read as is special only if the character is. -/
theorem matched_eq_iff {c special : Char} (h : special = '\\' ∨ special = '%' ∨ special = '_') :
    matched c = special ↔ c = special := by
  unfold matched
  split
  · next hc =>
    constructor
    · rintro rfl
      rcases h with h | h | h <;> exact absurd h (by decide)
    · rintro rfl
      rcases hc with rfl | rfl <;> rcases h with h | h | h <;> exact absurd h (by decide)
  · exact Iff.rfl

/-- Whether a character has a special meaning does not depend on how it is read. -/
theorem matched_special_iff {c : Char} :
    (matched c = '\\' ∨ matched c = '%' ∨ matched c = '_') ↔ c = '\\' ∨ c = '%' ∨ c = '_' := by
  rw [matched_eq_iff (.inl rfl), matched_eq_iff (.inr (.inl rfl)), matched_eq_iff (.inr (.inr rfl))]

/-! ### Escaping -/

/-- Escaping comes before reading as well as after it. -/
theorem map_matched_escapeWildcards (cs : List Char) :
    (escapeWildcards cs).map matched = escapeWildcards (cs.map matched) := by
  have hbackslash : matched '\\' = '\\' := by decide
  induction cs with
  | nil => rfl
  | cons c cs ih =>
    simp only [List.map_cons, escapeWildcards, matched_special_iff]
    split
    · rw [List.map_cons, List.map_cons, hbackslash, ih]
    · rw [List.map_cons, ih]

/-- The backslash before a character stays with it, so escaped characters end at the NUL that
the characters end at. -/
theorem beforeNul_escapeWildcards (cs : List Char) :
    beforeNul (escapeWildcards cs) = escapeWildcards (beforeNul cs) := by
  induction cs with
  | nil => rfl
  | cons c cs ih =>
    by_cases hspecial : c = '\\' ∨ c = '%' ∨ c = '_'
    · have hc : c ≠ '\x00' := by
        rintro rfl
        exact absurd hspecial (by decide)
      rw [escapeWildcards, if_pos hspecial, beforeNul_cons_of_ne (by decide),
        beforeNul_cons_of_ne hc, beforeNul_cons_of_ne hc, ih, escapeWildcards, if_pos hspecial]
    · rw [escapeWildcards, if_neg hspecial]
      by_cases hc : c = '\x00'
      · subst hc
        rfl
      · rw [beforeNul_cons_of_ne hc, beforeNul_cons_of_ne hc, ih, escapeWildcards,
          if_neg hspecial]

/-- Escaping adds no NUL and takes none away. -/
theorem nul_mem_escapeWildcards {cs : List Char} :
    '\x00' ∈ escapeWildcards cs ↔ '\x00' ∈ cs := by
  induction cs with
  | nil => rfl
  | cons c cs ih =>
    have hbackslash : ('\x00' : Char) ≠ '\\' := by decide
    rw [escapeWildcards]
    split <;> simp only [List.mem_cons, hbackslash, false_or, ih]

/-- Without a backslash a character is an item of its own. -/
theorem escapedItems?_cons {c : Char} (h : c ≠ '\\') (rest : List Char) :
    escapedItems? (c :: rest) = (escapedItems? rest).map (PatternItem.ofChar c :: ·) := by
  rw [escapedItems?]
  · exact fun hc => absurd hc h
  · exact fun _ _ hc => absurd hc h

/-- Escaped characters are items that **stand for themselves**, whatever follows them. -/
theorem escapedItems?_escapeWildcards_append (cs rest : List Char) :
    escapedItems? (escapeWildcards cs ++ rest) =
      (escapedItems? rest).map (cs.map .exactly ++ ·) := by
  induction cs with
  | nil => cases h : escapedItems? rest <;> simp [escapeWildcards, h]
  | cons c cs ih =>
    rw [escapeWildcards]
    split
    · rw [List.cons_append, List.cons_append, escapedItems?, ih, Option.map_map]
      rfl
    · next hplain =>
      obtain ⟨hbackslash, hpercent, hunderscore⟩ := by simpa only [not_or] using hplain
      have hitem : PatternItem.ofChar c = .exactly c := by
        rw [PatternItem.ofChar, if_neg hpercent, if_neg hunderscore]
      rw [List.cons_append, escapedItems?_cons hbackslash, ih, Option.map_map, hitem]
      rfl

/-! ### The two patterns of a value -/

namespace LikePattern

/-- The items behind those of a value: an item for any run, unless a NUL ends the pattern
before. -/
def closing (value : String) : List PatternItem :=
  if '\x00' ∈ value.toList then [] else [.anyRun]

/-- Characters between two percent signs, up to a NUL. -/
theorem beforeNul_enclosed (cs : List Char) :
    beforeNul ('%' :: cs ++ ['%']) =
      '%' :: beforeNul cs ++ if '\x00' ∈ cs then [] else ['%'] := by
  rw [List.cons_append, beforeNul_cons_of_ne (by decide), beforeNul_append]
  rfl

/-- **The items of a value whose wildcards keep their meaning.** -/
theorem items?_containing (value : String) : (containing value).items? =
    some (.anyRun :: (matchedChars value).map .ofChar ++ closing value) := by
  have hpattern : (containing value).pattern.toList = '%' :: value.toList ++ ['%'] := by
    simp [containing]
  have hchars : matchedChars (containing value).pattern =
      '%' :: matchedChars value ++ if '\x00' ∈ value.toList then [] else ['%'] := by
    rw [matchedChars_eq, hpattern, beforeNul_enclosed, matchedChars_eq]
    split <;> simp [matched]
  have hescaped : (containing value).escaped = false := rfl
  rw [items?, hescaped, if_neg Bool.false_ne_true, hchars, closing]
  split <;> simp [PatternItem.ofChar]

/-- **The items of a value whose wildcards stand for themselves**: all its characters do, and the
percent signs around it do not. -/
theorem items?_containingLiteral (value : String) : (containingLiteral value).items? =
    some (.anyRun :: (matchedChars value).map .exactly ++ closing value) := by
  have hpattern : (containingLiteral value).pattern.toList =
      '%' :: escapeWildcards value.toList ++ ['%'] := by
    simp [containingLiteral]
  have hchars : matchedChars (containingLiteral value).pattern =
      '%' :: escapeWildcards (matchedChars value) ++
        if '\x00' ∈ value.toList then [] else ['%'] := by
    rw [matchedChars_eq, hpattern, beforeNul_enclosed, beforeNul_escapeWildcards, matchedChars_eq,
      ← map_matched_escapeWildcards]
    simp only [nul_mem_escapeWildcards]
    split <;> simp [matched]
  have hclosing : escapedItems? (if '\x00' ∈ value.toList then [] else ['%']) =
      some (closing value) := by
    rw [closing]
    split <;> rfl
  have hescaped : (containingLiteral value).escaped = true := rfl
  rw [items?, hescaped, if_pos rfl, hchars, List.cons_append, escapedItems?_cons (by decide),
    escapedItems?_escapeWildcards_append, hclosing]
  rfl

end LikePattern

/-! ### Where a value is found -/

/-- Whether a value **occurs in a text** as its characters are read: in what comes before the
first NUL of the text, and at the end of that if the value goes on with a NUL. -/
def OccursAs (read : Char → Char) (value text : String) : Prop :=
  if '\x00' ∈ value.toList then
    (beforeNul value.toList).map read <:+ (beforeNul text.toList).map read
  else value.toList.map read <:+: (beforeNul text.toList).map read

instance (read : Char → Char) (value text : String) : Decidable (OccursAs read value text) :=
  inferInstanceAs (Decidable (if '\x00' ∈ value.toList then
    (beforeNul value.toList).map read <:+ (beforeNul text.toList).map read
  else value.toList.map read <:+: (beforeNul text.toList).map read))

/-- Whether every character of a text is **read as itself**. -/
def ReadAsItself (text : String) : Prop :=
  ∀ c ∈ text.toList, matched c = c

/-- The characters that are not read as themselves are two that are no characters. -/
theorem readAsItself_iff {text : String} :
    ReadAsItself text ↔ '\ufffe' ∉ text.toList ∧ '\uffff' ∉ text.toList := by
  constructor
  · intro h
    constructor <;> intro hmem <;> exact absurd (h _ hmem) (by decide)
  · rintro ⟨hfirst, hlast⟩ c hc
    refine if_neg ?_
    rintro (rfl | rfl)
    · exact hfirst hc
    · exact hlast hc

instance (text : String) : Decidable (ReadAsItself text) :=
  decidable_of_iff _ readAsItself_iff.symm

/-- Where characters are read as themselves, a value occurs if it does letter for letter. -/
theorem occursAs_matched_iff {value text : String} (hvalue : ReadAsItself value)
    (htext : ReadAsItself text) : OccursAs matched value text ↔ OccursAs id value text := by
  have hread {cs : List Char} (h : ∀ c ∈ cs, matched c = c) : cs.map matched = cs.map id :=
    List.map_congr_left h
  have hcut {cs : List Char} (h : ∀ c ∈ cs, matched c = c) :
      (beforeNul cs).map matched = (beforeNul cs).map id :=
    hread fun c hc => h c (List.IsPrefix.subset (List.takeWhile_prefix _) hc)
  rw [OccursAs, OccursAs, hread hvalue, hcut hvalue, hcut htext]

namespace LikePattern

/-- **The escaped pattern of a value matches the texts in which the value occurs.** -/
theorem matches_containingLiteral_iff {value text : String} :
    (containingLiteral value).matches text = true ↔ OccursAs matched value text := by
  rw [matches_iff, items?_containingLiteral, OccursAs, closing]
  simp only [Option.some.injEq, exists_eq_left']
  split
  · rw [List.append_nil, fits_suffix_iff]
    rfl
  · next hnul =>
    rw [fits_infix_iff, matchedChars_eq value, beforeNul_of_notMem hnul]
    rfl

/-- **A search for a literal substring finds it and nothing else.** The escaped pattern of a value
matches a text exactly if the value occurs in it as the characters are read, which is letter for
letter where neither has one of the two code points that are read as another one. No character of
the value is a wildcard, and the pattern ends with one unless the value has a NUL. -/
theorem containingLiteral_finds (value text : String) :
    ((containingLiteral value).matches text = true ↔ OccursAs matched value text) ∧
      (ReadAsItself value → ReadAsItself text →
        ((containingLiteral value).matches text = true ↔ OccursAs id value text)) ∧
      (containingLiteral value).items? = some (.anyRun :: (matchedChars value).map .exactly ++
        if '\x00' ∈ value.toList then [] else [.anyRun]) := by
  refine ⟨matches_containingLiteral_iff, fun hvalue htext => ?_, items?_containingLiteral value⟩
  rw [matches_containingLiteral_iff, occursAs_matched_iff hvalue htext]

/-- A value of special characters is found where it is, and where a wildcard would be needed it
is not. -/
theorem containingLiteral_finds_special :
    (containingLiteral "0%_\\").matches "a 50%_\\ b" = true ∧
      (containingLiteral "0%_\\").matches "a 500\\ b" = false := by
  obtain ⟨-, hthere, -⟩ := containingLiteral_finds "0%_\\" "a 50%_\\ b"
  obtain ⟨-, hmissing, -⟩ := containingLiteral_finds "0%_\\" "a 500\\ b"
  refine ⟨(hthere (by decide) (by decide)).mpr (by decide), Bool.eq_false_iff.mpr fun hfound => ?_⟩
  exact absurd ((hmissing (by decide) (by decide)).mp hfound) (by decide)

/-- **A value can be found where it does not occur**: the last code point of the basic plane is
found where the one before it stands. -/
theorem containingLiteral_finds_lookalike : "\uffff" ≠ "" ∧
    (containingLiteral "\uffff").matches "\ufffe" = true ∧ ¬OccursAs id "\uffff" "\ufffe" := by
  refine ⟨by decide, ?_, by decide⟩
  rw [matches_containingLiteral_iff]
  decide

end LikePattern

end LogFilter.Sql
