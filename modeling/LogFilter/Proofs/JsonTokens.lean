import LogFilter.Proofs.JsonGrammar

/-!
# Cutting Written JSON into Tokens

The machine that cuts a text into tokens looks at one character at a time. This module says what
it makes of each production of the grammar in front of any rest of the text. Blanks, marks, words
and strings end by themselves. A number ends where the text goes on with something that cannot
belong to it, so of the rest it is known that it begins with a blank or a mark, if it begins at
all.

## Main definitions

* `Ends`: whether a text begins with what can stand behind a number.

## Main results

* `tokensFrom_string`: a string in front of the rest of a text.
* `tokensFrom_number`: a number in front of the rest of a text.
-/

namespace LogFilter.Json

/-! ### Single characters -/

/-- The tokens from a character on that completes none. -/
theorem tokensFrom_silent {mode next : Mode} {c : Char} (h : step mode c = ([], some next))
    (rest : List Char) : tokensFrom mode (c :: rest) = tokensFrom next rest := by
  rw [tokensFrom, h]
  rfl

/-- The tokens from a character on that completes one. -/
theorem tokensFrom_token {mode next : Mode} {c : Char} {token : Token}
    (h : step mode c = ([token], some next)) (rest : List Char) :
    tokensFrom mode (c :: rest) = token :: tokensFrom next rest := by
  rw [tokensFrom, h]
  rfl

/-- Blanks between tokens leave no trace. -/
theorem tokensFrom_blanks {blanks : List Char} (h : Blanks blanks) (rest : List Char) :
    tokensFrom .between (blanks ++ rest) = tokensFrom .between rest := by
  induction blanks with
  | nil => rfl
  | cons c blanks ih =>
    obtain ⟨hfirst, hblanks⟩ := List.forall_mem_cons.mp h
    have hstep : step .between c = ([], some .between) := if_pos hfirst
    rw [List.cons_append, tokensFrom_silent hstep, ih hblanks]

/-! ### Strings -/

/-- A digit of a hexadecimal number has one byte. -/
theorem utf8Size_of_hexDigit? {c : Char} {digit : Nat} (h : hexDigit? c = some digit) :
    c.utf8Size = 1 := by
  have hsmall : c ≤ 'f' := by
    unfold hexDigit? at h
    split at h
    · next hc => exact Char.le_trans hc.2 (by decide)
    · split at h
      · next hc => exact hc.2
      · split at h
        · next hc => exact Char.le_trans hc.2 (by decide)
        · cases h
  exact Char.utf8Size_eq_one_iff.mpr (Char.le_trans hsmall (by decide : 'f' ≤ '\x7f'))

/-- The four digits of a code unit, each of one byte. -/
theorem utf8Size_of_hexValue? {a b c d : Char} {unit : Nat}
    (h : hexValue? [a, b, c, d] = some unit) :
    a.utf8Size = 1 ∧ b.utf8Size = 1 ∧ c.utf8Size = 1 := by
  simp only [hexValue?, List.foldlM_cons, Option.bind_eq_bind, Option.bind_eq_some_iff,
    Option.map_eq_some_iff] at h
  obtain ⟨_, ⟨_, ha, -⟩, _, ⟨_, hb, -⟩, _, ⟨_, hc, -⟩, -⟩ := h
  exact ⟨utf8Size_of_hexDigit? ha, utf8Size_of_hexDigit? hb, utf8Size_of_hexDigit? hc⟩

/-- The **code unit** of an escape is added to the string. -/
theorem tokensFrom_unit {a b c d : Char} {unit : Nat} (h : hexValue? [a, b, c, d] = some unit)
    (part : StringPart) (rest : List Char) :
    tokensFrom (.string part) ('\\' :: 'u' :: a :: b :: c :: d :: rest) =
      tokensFrom (.string (part.pushUnit unit)) rest := by
  obtain ⟨ha, hb, hc⟩ := utf8Size_of_hexValue? h
  have hd := Char.utf8Size_pos d
  have hopen : step (.string part) '\\' = ([], some (.escape part)) := rfl
  have hescape : step (.escape part) 'u' = ([], some (.unicode part [])) := rfl
  have hfirst : step (.unicode part []) a = ([], some (.unicode part [a])) := by
    simp [step, stepUnicode, ha]
  have hsecond : step (.unicode part [a]) b = ([], some (.unicode part [b, a])) := by
    simp [step, stepUnicode, ha, hb]
  have hthird : step (.unicode part [b, a]) c = ([], some (.unicode part [c, b, a])) := by
    simp [step, stepUnicode, ha, hb, hc]
  have hlast : step (.unicode part [c, b, a]) d = ([], some (.string (part.pushUnit unit))) := by
    have hfull : ¬d.utf8Size + 1 + 1 + 1 < 4 := by omega
    simp [step, stepUnicode, ha, hb, hc, hfull, h]
  rw [tokensFrom_silent hopen, tokensFrom_silent hescape, tokensFrom_silent hfirst,
    tokensFrom_silent hsecond, tokensFrom_silent hthird, tokensFrom_silent hlast]

/-- A string **in front of the rest of a text**, of which some characters have been read. -/
theorem tokensFrom_chars {chars text : List Char} (h : CharsWritten chars text) (done : List Char)
    (rest : List Char) :
    tokensFrom (.string ⟨done, false, none⟩) (text ++ '"' :: rest) =
      .string (some (String.ofList (done.reverse ++ chars))) :: tokensFrom .between rest := by
  induction h generalizing done with
  | nil =>
    rw [List.append_nil]
    exact tokensFrom_token rfl rest
  | @plain c chars text hquote hescape hblank _ ih =>
    have hstep : step (.string ⟨done, false, none⟩) c =
        ([], some (.string ⟨c :: done, false, none⟩)) := by
      simp [step, hquote, hescape, Char.not_lt.mpr hblank, StringPart.push]
    rw [List.cons_append, tokensFrom_silent hstep, ih, List.reverse_cons, List.append_assoc]
    rfl
  | @short c e chars text hshort _ ih =>
    have hopen : step (.string ⟨done, false, none⟩) '\\' =
        ([], some (.escape ⟨done, false, none⟩)) := rfl
    have hunit : e ≠ 'u' := by
      rintro rfl
      cases hshort
    have hstep : step (.escape ⟨done, false, none⟩) e =
        ([], some (.string ⟨c :: done, false, none⟩)) := by
      simp [step, hunit, hshort, StringPart.push]
    rw [List.cons_append, List.cons_append, tokensFrom_silent hopen, tokensFrom_silent hstep, ih,
      List.reverse_cons, List.append_assoc]
    rfl
  | @unit a b c d unit chars text hunit hplain _ ih =>
    have hpush : StringPart.pushUnit ⟨done, false, none⟩ unit =
        ⟨Char.ofNat unit :: done, false, none⟩ := by
      have hlow : ¬(0xDC00 ≤ unit ∧ unit ≤ 0xDFFF) := by omega
      have hhigh : ¬(0xD800 ≤ unit ∧ unit ≤ 0xDBFF) := by omega
      simp [StringPart.pushUnit, StringPart.push, hlow, hhigh]
    simp only [List.cons_append]
    rw [tokensFrom_unit hunit, hpush, ih, List.reverse_cons, List.append_assoc]
    rfl
  | @pair a b c d a' b' c' d' high low chars text hhigh habove hbelow hlow habove' hbelow' _ ih =>
    have hfirst : StringPart.pushUnit ⟨done, false, none⟩ high = ⟨done, false, some high⟩ := by
      have hnotLow : ¬0xDC00 ≤ high := by omega
      simp [StringPart.pushUnit, hnotLow, habove, hbelow]
    have hsecond : StringPart.pushUnit ⟨done, false, some high⟩ low =
        ⟨Char.ofNat (0x10000 + (high - 0xD800) * 0x400 + (low - 0xDC00)) :: done, false, none⟩ := by
      simp [StringPart.pushUnit, habove', hbelow']
    simp only [List.cons_append]
    rw [tokensFrom_unit hhigh, hfirst, tokensFrom_unit hlow, hsecond, ih, List.reverse_cons,
      List.append_assoc]
    rfl

/-- **A string in front of the rest of a text** is one token. -/
theorem tokensFrom_string {content : String} {text : List Char}
    (h : CharsWritten content.toList text) (rest : List Char) :
    tokensFrom .between ('"' :: (text ++ '"' :: rest)) =
      .string (some content) :: tokensFrom .between rest := by
  have hopen : step .between '"' = ([], some (.string .empty)) := rfl
  rw [tokensFrom_silent hopen, StringPart.empty, tokensFrom_chars h, List.reverse_nil,
    List.nil_append, String.ofList_toList]

/-! ### Numbers -/

/-- Whether a text **begins with what can stand behind a number**, if it begins at all: a blank, a
comma, or the end of an array or object. -/
def Ends (rest : List Char) : Prop :=
  ∀ c ∈ rest.head?, isBlank c = true ∨ c = ',' ∨ c = ']' ∨ c = '}'

/-- What ends a value can stand behind a number. -/
theorem ends_cons {c : Char} (h : c = ',' ∨ c = ']' ∨ c = '}') (rest : List Char) :
    Ends (c :: rest) := by
  rintro _ ⟨⟩
  exact .inr h

/-- Blanks can stand there as well. -/
theorem Ends.blanks {blanks rest : List Char} (h : Blanks blanks) (hrest : Ends rest) :
    Ends (blanks ++ rest) := by
  cases blanks with
  | nil => exact hrest
  | cons c blanks =>
    rintro _ ⟨⟩
    exact .inl (h _ List.mem_cons_self)

/-- What can stand behind a number is not part of one. -/
theorem Ends.not_number {c : Char} {rest : List Char} (h : Ends (c :: rest)) :
    c.isDigit = false ∧ c ≠ '.' ∧ c ≠ 'e' ∧ c ≠ 'E' := by
  rcases h c rfl with hblank | rfl | rfl | rfl
  · simp only [isBlank, Bool.or_eq_true, decide_eq_true_eq] at hblank
    rcases hblank with ((rfl | rfl) | rfl) | rfl <;> decide
  all_goals decide

/-- The phases in which a number may end. -/
def NumberPhase.MayEnd (phase : NumberPhase) : Prop :=
  phase = .zero ∨ phase = .whole ∨ phase = .fraction ∨ phase = .exponent

/-- A number ends where something else begins. -/
theorem tokensFrom_endNumber {phase : NumberPhase} (hphase : phase.MayEnd) (number : NumberText)
    {rest : List Char} (hrest : Ends rest) :
    tokensFrom (.number phase number) rest = .number number.finish :: tokensFrom .between rest := by
  cases rest with
  | nil => rcases hphase with rfl | rfl | rfl | rfl <;> rfl
  | cons c rest =>
    obtain ⟨hdigit, hpoint, hmark, hMark⟩ := hrest.not_number
    have hstep : step (.number phase number) c = afterNumber number c := by
      rcases hphase with rfl | rfl | rfl | rfl <;>
        simp [step, stepNumber, hdigit, hpoint, hmark, hMark]
    have hbetween : step .between c = stepBetween c := rfl
    rw [tokensFrom, tokensFrom, hstep, afterNumber, hbetween]
    rcases stepBetween c with ⟨tokens, _ | next⟩ <;> rfl

/-- The digits of the exponent. -/
theorem tokensFrom_exponentDigits {negative sign : Bool} {whole done digits : List Char}
    {fraction : Option (List Char)} (h : ∀ c ∈ digits, c.isDigit = true) {rest : List Char}
    (hrest : Ends rest) :
    tokensFrom (.number .exponent ⟨negative, whole, fraction, some (sign, done)⟩) (digits ++ rest) =
      .number ⟨negative, whole.reverse, fraction.map List.reverse,
        some (sign, done.reverse ++ digits)⟩ :: tokensFrom .between rest := by
  induction digits generalizing done with
  | nil =>
    rw [List.append_nil]
    exact tokensFrom_endNumber (.inr (.inr (.inr rfl))) _ hrest
  | cons c digits ih =>
    obtain ⟨hfirst, hdigits⟩ := List.forall_mem_cons.mp h
    have hstep : step (.number .exponent ⟨negative, whole, fraction, some (sign, done)⟩) c =
        ([], some (.number .exponent ⟨negative, whole, fraction, some (sign, c :: done)⟩)) := by
      simp [step, stepNumber, hfirst, NumberText.pushExponent]
    rw [List.cons_append, tokensFrom_silent hstep, ih hdigits, List.reverse_cons, List.append_assoc]
    rfl

/-- A digit is no sign. -/
theorem ne_sign_of_isDigit {c : Char} (h : c.isDigit = true) : c ≠ '+' ∧ c ≠ '-' := by
  constructor <;> rintro rfl <;> cases h

/-- The digits of the exponent, behind its mark or its sign. -/
theorem tokensFrom_exponentStart {phase : NumberPhase} (hphase : phase = .mark ∨ phase = .sign)
    {negative sign : Bool} {whole digits : List Char} {fraction : Option (List Char)}
    (h : Digits digits) {rest : List Char} (hrest : Ends rest) :
    tokensFrom (.number phase ⟨negative, whole, fraction, some (sign, [])⟩) (digits ++ rest) =
      .number ⟨negative, whole.reverse, fraction.map List.reverse, some (sign, digits)⟩ ::
        tokensFrom .between rest := by
  obtain ⟨hne, hall⟩ := h
  obtain ⟨c, digits, rfl⟩ := List.exists_cons_of_ne_nil hne
  obtain ⟨hfirst, hdigits⟩ := List.forall_mem_cons.mp hall
  obtain ⟨hplus, hminus⟩ := ne_sign_of_isDigit hfirst
  have hstep : step (.number phase ⟨negative, whole, fraction, some (sign, [])⟩) c =
      ([], some (.number .exponent ⟨negative, whole, fraction, some (sign, [c])⟩)) := by
    rcases hphase with rfl | rfl <;>
      simp [step, stepNumber, hplus, hminus, hfirst, NumberText.pushExponent]
  rw [List.cons_append, tokensFrom_silent hstep, tokensFrom_exponentDigits hdigits hrest]
  rfl

/-- The exponent, behind digits that may be the last ones. -/
theorem tokensFrom_exponent {phase : NumberPhase} (hphase : phase.MayEnd)
    (hopen : phase ≠ .exponent) {negative : Bool} {whole power : List Char}
    {fraction : Option (List Char)} {exponent : Option (Bool × List Char)}
    (h : ExponentWritten exponent power) {rest : List Char} (hrest : Ends rest) :
    tokensFrom (.number phase ⟨negative, whole, fraction, none⟩) (power ++ rest) =
      .number ⟨negative, whole.reverse, fraction.map List.reverse, exponent⟩ ::
        tokensFrom .between rest := by
  have hmarked {mark : Char} (hmark : mark = 'e' ∨ mark = 'E') :
      step (.number phase ⟨negative, whole, fraction, none⟩) mark =
        ([], some (.number .mark ⟨negative, whole, fraction, some (false, [])⟩)) := by
    rcases hphase with rfl | rfl | rfl | rfl
    case inr.inr.inr => exact absurd rfl hopen
    all_goals rcases hmark with rfl | rfl <;> rfl
  have hsigned (sign : Char) (opposite : Bool) (hsign : (sign, opposite) = ('+', false) ∨
      (sign, opposite) = ('-', true)) :
      step (.number .mark ⟨negative, whole, fraction, some (false, [])⟩) sign =
        ([], some (.number .sign ⟨negative, whole, fraction, some (opposite, [])⟩)) := by
    rcases hsign with hsign | hsign <;> cases hsign <;> rfl
  cases h with
  | absent => exact tokensFrom_endNumber hphase _ hrest
  | unsigned hmark hdigits =>
    rw [List.cons_append, tokensFrom_silent (hmarked hmark),
      tokensFrom_exponentStart (.inl rfl) hdigits hrest]
  | positive hmark hdigits =>
    rw [List.cons_append, tokensFrom_silent (hmarked hmark), List.cons_append,
      tokensFrom_silent (hsigned '+' false (.inl rfl)),
      tokensFrom_exponentStart (.inr rfl) hdigits hrest]
  | negative hmark hdigits =>
    rw [List.cons_append, tokensFrom_silent (hmarked hmark), List.cons_append,
      tokensFrom_silent (hsigned '-' true (.inr rfl)),
      tokensFrom_exponentStart (.inr rfl) hdigits hrest]

/-- The digits after the point, and the exponent. -/
theorem tokensFrom_fractionDigits {negative : Bool} {whole done digits power : List Char}
    {exponent : Option (Bool × List Char)} (h : ∀ c ∈ digits, c.isDigit = true)
    (hpower : ExponentWritten exponent power) {rest : List Char} (hrest : Ends rest) :
    tokensFrom (.number .fraction ⟨negative, whole, some done, none⟩)
        (digits ++ (power ++ rest)) =
      .number ⟨negative, whole.reverse, some (done.reverse ++ digits), exponent⟩ ::
        tokensFrom .between rest := by
  induction digits generalizing done with
  | nil =>
    rw [List.append_nil]
    exact tokensFrom_exponent (.inr (.inr (.inl rfl))) nofun hpower hrest
  | cons c digits ih =>
    obtain ⟨hfirst, hdigits⟩ := List.forall_mem_cons.mp h
    have hstep : step (.number .fraction ⟨negative, whole, some done, none⟩) c =
        ([], some (.number .fraction ⟨negative, whole, some (c :: done), none⟩)) := by
      simp [step, stepNumber, hfirst]
    rw [List.cons_append, tokensFrom_silent hstep, ih hdigits, List.reverse_cons, List.append_assoc]
    rfl

/-- What comes after the digits before the point. -/
theorem tokensFrom_afterWhole {phase : NumberPhase} (hphase : phase = .zero ∨ phase = .whole)
    {negative : Bool} {whole after power : List Char} {fraction : Option (List Char)}
    {exponent : Option (Bool × List Char)} (hafter : FractionWritten fraction after)
    (hpower : ExponentWritten exponent power) {rest : List Char} (hrest : Ends rest) :
    tokensFrom (.number phase ⟨negative, whole, none, none⟩) (after ++ (power ++ rest)) =
      .number ⟨negative, whole.reverse, fraction, exponent⟩ :: tokensFrom .between rest := by
  cases hafter with
  | absent =>
    rcases hphase with rfl | rfl
    · exact tokensFrom_exponent (.inl rfl) nofun hpower hrest
    · exact tokensFrom_exponent (.inr (.inl rfl)) nofun hpower hrest
  | @present digits hdigits =>
    obtain ⟨hne, hall⟩ := hdigits
    obtain ⟨c, digits, rfl⟩ := List.exists_cons_of_ne_nil hne
    obtain ⟨hfirst, hmore⟩ := List.forall_mem_cons.mp hall
    have hpoint : step (.number phase ⟨negative, whole, none, none⟩) '.' =
        ([], some (.number .point ⟨negative, whole, some [], none⟩)) := by
      rcases hphase with rfl | rfl <;> rfl
    have hstep : step (.number .point ⟨negative, whole, some [], none⟩) c =
        ([], some (.number .fraction ⟨negative, whole, some [c], none⟩)) := by
      simp [step, stepNumber, hfirst]
    rw [List.cons_append, tokensFrom_silent hpoint, List.cons_append, tokensFrom_silent hstep,
      tokensFrom_fractionDigits hmore hpower hrest]
    rfl

/-- The digits before the point, and what comes after them. -/
theorem tokensFrom_wholeDigits {negative : Bool} {done digits after power : List Char}
    {fraction : Option (List Char)} {exponent : Option (Bool × List Char)}
    (h : ∀ c ∈ digits, c.isDigit = true) (hafter : FractionWritten fraction after)
    (hpower : ExponentWritten exponent power) {rest : List Char} (hrest : Ends rest) :
    tokensFrom (.number .whole ⟨negative, done, none, none⟩)
        (digits ++ (after ++ (power ++ rest))) =
      .number ⟨negative, done.reverse ++ digits, fraction, exponent⟩ ::
        tokensFrom .between rest := by
  induction digits generalizing done with
  | nil =>
    rw [List.append_nil]
    exact tokensFrom_afterWhole (.inr rfl) hafter hpower hrest
  | cons c digits ih =>
    obtain ⟨hfirst, hdigits⟩ := List.forall_mem_cons.mp h
    have hstep : step (.number .whole ⟨negative, done, none, none⟩) c =
        ([], some (.number .whole ⟨negative, c :: done, none, none⟩)) := by
      simp [step, stepNumber, hfirst]
    rw [List.cons_append, tokensFrom_silent hstep, ih hdigits, List.reverse_cons, List.append_assoc]
    rfl

/-- A digit other than zero begins a number. -/
theorem step_of_isDigit {c : Char} (h : c.isDigit = true) (hzero : c ≠ '0') :
    step .between c = ([], some (.number .whole ⟨false, [c], none, none⟩)) := by
  have hblank : ¬isBlank c = true := by
    intro hblank
    simp only [isBlank, Bool.or_eq_true, decide_eq_true_eq] at hblank
    rcases hblank with ((rfl | rfl) | rfl) | rfl <;> cases h
  change stepBetween c = _
  unfold stepBetween
  rw [if_neg hblank]
  split <;> first | (exact absurd h (by decide)) | (exact absurd rfl hzero) | exact if_pos h

/-- **A number in front of the rest of a text** is one token, if the rest cannot belong to it. -/
theorem tokensFrom_number {number : NumberText} {text : List Char} (h : NumberWritten number text)
    {rest : List Char} (hrest : Ends rest) :
    tokensFrom .between (text ++ rest) = .number number :: tokensFrom .between rest := by
  obtain @⟨negative, whole, after, power, fraction, exponent, ⟨⟨hne, hall⟩, hfront⟩, hafter,
    hpower⟩ := h
  obtain ⟨c, digits, rfl⟩ := List.exists_cons_of_ne_nil hne
  obtain ⟨hfirst, hdigits⟩ := List.forall_mem_cons.mp hall
  have hminus : step .between '-' = ([], some (.number .minus ⟨true, [], none, none⟩)) := rfl
  simp only [List.append_assoc, List.cons_append]
  by_cases hzero : c = '0'
  · obtain ⟨rfl, rfl⟩ := List.cons.inj (hfront (congrArg some hzero))
    cases negative with
    | false =>
      have hstep : step .between '0' = ([], some (.number .zero ⟨false, ['0'], none, none⟩)) := rfl
      exact (tokensFrom_silent hstep _).trans (tokensFrom_afterWhole (.inl rfl) hafter hpower hrest)
    | true =>
      have hstep : step (.number .minus ⟨true, [], none, none⟩) '0' =
          ([], some (.number .zero ⟨true, ['0'], none, none⟩)) := rfl
      exact (tokensFrom_silent hminus _).trans ((tokensFrom_silent hstep _).trans
        (tokensFrom_afterWhole (.inl rfl) hafter hpower hrest))
  · cases negative with
    | false =>
      exact (tokensFrom_silent (step_of_isDigit hfirst hzero) _).trans
        (tokensFrom_wholeDigits hdigits hafter hpower hrest)
    | true =>
      have hstep : step (.number .minus ⟨true, [], none, none⟩) c =
          ([], some (.number .whole ⟨true, [c], none, none⟩)) := by
        simp [step, stepNumber, hzero, hfirst]
      exact (tokensFrom_silent hminus _).trans ((tokensFrom_silent hstep _).trans
        (tokensFrom_wholeDigits hdigits hafter hpower hrest))

end LogFilter.Json
