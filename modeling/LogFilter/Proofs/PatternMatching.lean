import LogFilter.Sql.Like
import Mathlib.Data.List.Forall2
import Mathlib.Data.List.Infix

/-!
# Fitting a Pattern

The matcher goes through the items of a pattern from the last one to the first and keeps, for
every tail of the text, whether the items so far match it. What it computes is said here without
tails and tables: characters *fit* some items if they can be cut into pieces, one for each item,
of which each is what its item stands for.

Two facts about fitting carry everything that is said about substring searches. Items that stand
for themselves fit exactly the characters that they are, and an item for any run of characters
skips to some tail of the text.

## Main definitions

* `Fits`: whether characters fit the items of a pattern.
* `Tells`: whether a list of answers tells a property of every tail of a text.

## Main results

* `tells_matchTails`: the matcher tells of every tail whether it fits.
* `LikePattern.matches_iff`: a text matches a pattern if its characters fit the items.
* `fits_exactly_append_iff`, `fits_infix_iff`, `fits_suffix_iff`: fitting items that stand for
  themselves.
-/

namespace LogFilter.Sql

/-! ### Fitting items -/

/-- Whether characters **fit** the items of a pattern, one piece of them for each item. -/
inductive Fits : List PatternItem → List Char → Prop
  | nil : Fits [] []
  | anyRun {items : List PatternItem} {text : List Char} (skipped : List Char) :
      Fits items text → Fits (.anyRun :: items) (skipped ++ text)
  | anyOne {items : List PatternItem} {text : List Char} (c : Char) :
      Fits items text → Fits (.anyOne :: items) (c :: text)
  | exactly {items : List PatternItem} {text : List Char} (c : Char) :
      Fits items text → Fits (.exactly c :: items) (c :: text)

variable {items : List PatternItem} {text : List Char}

/-- Only the empty text fits no items. -/
theorem fits_nil_iff : Fits [] text ↔ text = [] := by
  constructor
  · intro h
    cases h
    rfl
  · rintro rfl
    exact .nil

/-- An item for any run skips to some tail. -/
theorem fits_anyRun_iff :
    Fits (.anyRun :: items) text ↔ ∃ tail, tail <:+ text ∧ Fits items tail := by
  constructor
  · intro h
    cases h with
    | @anyRun _ tail skipped htail => exact ⟨tail, List.suffix_append skipped tail, htail⟩
  · rintro ⟨tail, ⟨skipped, rfl⟩, htail⟩
    exact .anyRun skipped htail

/-- An item for one character takes the first one. -/
theorem fits_anyOne_iff :
    Fits (.anyOne :: items) text ↔ ∃ c rest, text = c :: rest ∧ Fits items rest := by
  constructor
  · intro h
    cases h with
    | @anyOne _ rest c hrest => exact ⟨c, rest, rfl, hrest⟩
  · rintro ⟨c, rest, rfl, hrest⟩
    exact .anyOne c hrest

/-- An item for itself takes the first character, which it has to be. -/
theorem fits_exactly_iff {c : Char} :
    Fits (.exactly c :: items) text ↔ ∃ rest, text = c :: rest ∧ Fits items rest := by
  constructor
  · intro h
    cases h with
    | @exactly _ rest _ hrest => exact ⟨rest, rfl, hrest⟩
  · rintro ⟨rest, rfl, hrest⟩
    exact .exactly c hrest

/-! ### The matcher -/

/-- Whether a list of answers **tells a property** of every tail of a text, from the whole text
to the empty one. -/
def Tells (answers : List Bool) (text : List Char) (holds : List Char → Prop) : Prop :=
  List.Forall₂ (fun answer tail => answer = true ↔ holds tail) answers text.tails

namespace Tells

variable {answers : List Bool} {holds : List Char → Prop}

/-- The tails of a text with a first character: the whole text and those of the others. -/
theorem cons_iff {c : Char} : Tells answers (c :: text) holds ↔
    ∃ here later, answers = here :: later ∧ (here = true ↔ holds (c :: text)) ∧
      Tells later text holds := by
  rw [Tells, List.tails_cons, List.forall₂_cons_right_iff]
  constructor
  · rintro ⟨here, later, hhere, hlater, rfl⟩
    exact ⟨here, later, rfl, hhere, hlater⟩
  · rintro ⟨here, later, rfl, hhere, hlater⟩
    exact ⟨here, later, hhere, hlater, rfl⟩

/-- The empty text has no tail but itself. -/
theorem nil_iff : Tells answers [] holds ↔ ∃ here, answers = [here] ∧ (here = true ↔ holds []) := by
  rw [Tells, List.tails, List.forall₂_cons_right_iff]
  constructor
  · rintro ⟨here, later, hhere, hlater, rfl⟩
    cases hlater
    exact ⟨here, rfl, hhere⟩
  · rintro ⟨here, rfl, hhere⟩
    exact ⟨here, [], hhere, .nil, rfl⟩

/-- The first answer is about the whole text. -/
theorem headD_iff (h : Tells answers text holds) : answers.headD false = true ↔ holds text := by
  cases text with
  | nil =>
    obtain ⟨here, rfl, hhere⟩ := nil_iff.mp h
    exact hhere
  | cons c text =>
    obtain ⟨here, later, rfl, hhere, -⟩ := cons_iff.mp h
    exact hhere

/-- Answers tell what is the same of every tail. -/
theorem imp {other : List Char → Prop} (h : Tells answers text holds)
    (hsame : ∀ tail, holds tail ↔ other tail) : Tells answers text other :=
  List.Forall₂.imp (fun _ tail hanswer => hanswer.trans (hsame tail)) h

/-- Only the last tail is empty. -/
theorem empty (text : List Char) : Tells (text.map (fun _ => false) ++ [true]) text (· = []) := by
  induction text with
  | nil => exact nil_iff.mpr ⟨true, rfl, iff_of_true rfl rfl⟩
  | cons c text ih => exact cons_iff.mpr ⟨false, _, rfl, iff_of_false nofun nofun, ih⟩

/-- Taking one character tells whether an accepted one is before a tail with the property. -/
theorem consumeOne (accepts : Char → Bool) (h : Tells answers text holds) :
    Tells (consumeOne accepts text answers) text fun tail =>
      ∃ c rest, tail = c :: rest ∧ accepts c = true ∧ holds rest := by
  induction text generalizing answers with
  | nil =>
    obtain ⟨here, rfl, -⟩ := nil_iff.mp h
    exact nil_iff.mpr ⟨false, rfl, iff_of_false nofun (by rintro ⟨_, _, hnil, -⟩; cases hnil)⟩
  | cons c text ih =>
    obtain ⟨here, later, rfl, -, hlater⟩ := cons_iff.mp h
    refine cons_iff.mpr ⟨accepts c && later.headD false, _, rfl, ?_, ih hlater⟩
    rw [Bool.and_eq_true, hlater.headD_iff]
    constructor
    · rintro ⟨haccepts, hrest⟩
      exact ⟨c, text, rfl, haccepts, hrest⟩
    · rintro ⟨_, _, ⟨⟩, haccepts, hrest⟩
      exact ⟨haccepts, hrest⟩

/-- Skipping any run tells whether some tail of a tail has the property. -/
theorem consumeRun (h : Tells answers text holds) :
    Tells (consumeRun answers) text fun tail => ∃ later, later <:+ tail ∧ holds later := by
  induction text generalizing answers with
  | nil =>
    obtain ⟨here, rfl, hhere⟩ := nil_iff.mp h
    refine nil_iff.mpr ⟨here, by simp [Sql.consumeRun], ?_⟩
    simp [hhere]
  | cons c text ih =>
    obtain ⟨here, later, rfl, hhere, hlater⟩ := cons_iff.mp h
    have hrun := ih hlater
    refine cons_iff.mpr ⟨here || (Sql.consumeRun later).headD false, _, rfl, ?_, hrun⟩
    rw [Bool.or_eq_true, hhere, hrun.headD_iff]
    constructor
    · rintro (hwhole | ⟨tail, hsuffix, htail⟩)
      · exact ⟨_, List.suffix_rfl, hwhole⟩
      · exact ⟨tail, hsuffix.trans (List.suffix_cons c text), htail⟩
    · rintro ⟨tail, hsuffix, htail⟩
      rcases List.suffix_cons_iff.mp hsuffix with rfl | hlater
      · exact .inl htail
      · exact .inr ⟨tail, hlater, htail⟩

end Tells

/-- **The matcher tells of every tail of a text whether it fits.** -/
theorem tells_matchTails (items : List PatternItem) (text : List Char) :
    Tells (matchTails items text) text (Fits items) := by
  induction items with
  | nil => exact (Tells.empty text).imp fun _ => fits_nil_iff.symm
  | cons item items ih =>
    cases item with
    | anyRun => exact ih.consumeRun.imp fun _ => fits_anyRun_iff.symm
    | anyOne =>
      refine (ih.consumeOne fun _ => true).imp fun tail => ?_
      simp only [fits_anyOne_iff, true_and]
    | exactly c =>
      refine (ih.consumeOne fun d => c == d).imp fun tail => ?_
      simp only [fits_exactly_iff, beq_iff_eq]
      constructor
      · rintro ⟨_, rest, rfl, rfl, hrest⟩
        exact ⟨rest, rfl, hrest⟩
      · rintro ⟨rest, rfl, hrest⟩
        exact ⟨c, rest, rfl, rfl, hrest⟩

/-- **A text matches a pattern** if the pattern can match at all and the characters of the text
fit its items. -/
theorem LikePattern.matches_iff {pattern : LikePattern} {text : String} :
    pattern.matches text = true ↔
      ∃ items, pattern.items? = some items ∧ Fits items (matchedChars text) := by
  unfold LikePattern.matches
  cases pattern.items? with
  | none => exact iff_of_false nofun (by rintro ⟨_, ⟨⟩, -⟩)
  | some items =>
    simp only [Option.some.injEq, exists_eq_left']
    exact (tells_matchTails items (matchedChars text)).headD_iff

/-! ### Items that stand for themselves -/

/-- Items that stand for themselves fit the characters that they are. -/
theorem fits_exactly_append_iff {word : List Char} :
    Fits (word.map .exactly ++ items) text ↔ ∃ rest, text = word ++ rest ∧ Fits items rest := by
  induction word generalizing text with
  | nil => simp
  | cons c word ih =>
    rw [List.map_cons, List.cons_append, fits_exactly_iff]
    constructor
    · rintro ⟨_, rfl, hrest⟩
      obtain ⟨rest, rfl, hfits⟩ := ih.mp hrest
      exact ⟨rest, rfl, hfits⟩
    · rintro ⟨rest, rfl, hfits⟩
      exact ⟨word ++ rest, rfl, ih.mpr ⟨rest, rfl, hfits⟩⟩

/-- Everything fits an item for any run. -/
theorem fits_anyRun (text : List Char) : Fits [.anyRun] text :=
  fits_anyRun_iff.mpr ⟨[], List.nil_suffix, .nil⟩

/-- Between two items for any run, a word fits the texts that it occurs in. -/
theorem fits_infix_iff {word : List Char} :
    Fits (.anyRun :: word.map .exactly ++ [.anyRun]) text ↔ word <:+: text := by
  rw [List.cons_append, fits_anyRun_iff]
  simp only [fits_exactly_append_iff]
  constructor
  · rintro ⟨_, ⟨front, rfl⟩, back, rfl, -⟩
    exact ⟨front, back, List.append_assoc front word back⟩
  · rintro ⟨front, back, rfl⟩
    exact ⟨word ++ back, ⟨front, (List.append_assoc front word back).symm⟩, back, rfl,
      fits_anyRun back⟩

/-- Behind an item for any run, a word fits the texts that end with it. -/
theorem fits_suffix_iff {word : List Char} :
    Fits (.anyRun :: word.map .exactly) text ↔ word <:+ text := by
  have hword (tail : List Char) : Fits (word.map .exactly) tail ↔ tail = word := by
    rw [← List.append_nil (word.map PatternItem.exactly), fits_exactly_append_iff]
    simp [fits_nil_iff]
  rw [fits_anyRun_iff]
  simp only [hword, exists_eq_right]

end LogFilter.Sql
