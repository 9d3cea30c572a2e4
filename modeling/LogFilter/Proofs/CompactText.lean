import LogFilter.Json.Basic
import LogFilter.Proofs.DecimalText
import LogFilter.Proofs.JsonDocuments

/-!
# Compact Texts

The compact text of a value is one of the ways to write it, if none of its numbers is a double, so
it reads back as the value. And it tells the value: no other one is stored as the same text, even
where the other one has doubles, because these are never written like an integer. For doubles
themselves nothing of this kind is said.

Values are formed here as the reader keeps them: the names of members increase strictly, integers
have 64 bits and doubles are finite.

## Main definitions

* `Number.Whole`, `Number.WellFormed`: integers of 64 bits, and these and finite doubles.
* `Formed`: values with numbers of a kind.

## Main results

* `isText_compact`: a compact text is written for its value.
* `Formed.writtenUniquely`: in front of the rest of a text as well it tells its value.
* `compact_inj`: a compact text tells its value.
-/

namespace LogFilter.Json

/-! ### Values -/

/-- The integers of **64 bits**, with a sign or without. -/
inductive Number.Whole : Number → Prop
  | integer {n : Int} : signed64.contains n = true ∨ unsigned64.contains n = true →
      Whole (.integer n)

/-- The **numbers that can be read**: integers of 64 bits and finite doubles. -/
inductive Number.WellFormed : Number → Prop
  | whole {number : Number} : number.Whole → WellFormed number
  | zero {bits : UInt64} {negative : Bool} : FloatParts.ofBits bits = .zero negative →
      WellFormed (.double bits)
  | finite {bits : UInt64} {negative : Bool} {magnitude : Binary} :
      FloatParts.ofBits bits = .finite negative magnitude → WellFormed (.double bits)

/-- A value is **formed of numbers of a kind** if all of its numbers are, and the names of its
members increase strictly, wherever it has members. -/
inductive Formed (allowed : Number → Prop) : Json → Prop
  | null : Formed allowed .null
  | boolean (value : Bool) : Formed allowed (.boolean value)
  | number {value : Number} : allowed value → Formed allowed (.number value)
  | string (content : String) : Formed allowed (.string content)
  | array {items : List Json} : (∀ item ∈ items, Formed allowed item) →
      Formed allowed (.array items)
  | object {members : List (String × Json)} : (members.Pairwise fun a b => a.1 < b.1) →
      (∀ member ∈ members, Formed allowed member.2) → Formed allowed (.object members)

/-- A value is formed of numbers of a wider kind as well. -/
theorem Formed.mono {allowed wider : Number → Prop} {value : Json} (h : value.Formed allowed)
    (hwider : ∀ number, allowed number → wider number) : value.Formed wider := by
  induction h with
  | null => exact .null
  | boolean value => exact .boolean value
  | number hnumber => exact .number (hwider _ hnumber)
  | string content => exact .string content
  | array _ ih => exact .array ih
  | object hnames _ ih => exact .object hnames ih

/-! ### Compact texts are written -/

/-- The digits of a number, as they stand before a point. -/
theorem wholeDigits_toDigits (n : Nat) : WholeDigits (Nat.toDigits 10 n) := by
  refine ⟨⟨Nat.toDigits_ne_nil, fun _ => isDigit_of_mem_toDigits⟩, fun hzero => ?_⟩
  by_cases hn : n = 0
  · subst hn
    rfl
  · obtain ⟨c, rest, hdigits, hne⟩ := exists_toDigits_eq_cons hn
    rw [hdigits] at hzero
    exact absurd (Option.some.inj hzero) hne

/-- **The text of an integer** is written for it. -/
theorem numberWritten_toString (n : Int) :
    NumberWritten ⟨n < 0, Nat.toDigits 10 n.natAbs, none, none⟩ (toString n).toList := by
  have hwritten : NumberWritten ⟨n < 0, Nat.toDigits 10 n.natAbs, none, none⟩
      (minusSign (n < 0) ++ (Nat.toDigits 10 n.natAbs ++ ([] ++ []))) :=
    .intro (wholeDigits_toDigits _) .absent .absent
  simpa only [toList_toString_int, minusSign, decide_eq_true_eq, List.append_nil] using hwritten

/-- An integer of 64 bits is what its digits stand for. -/
theorem ofText_toDigits {n : Int} (h : signed64.contains n = true ∨ unsigned64.contains n = true) :
    Number.ofText ⟨n < 0, Nat.toDigits 10 n.natAbs, none, none⟩ = some (.integer n) := by
  simp only [IntegerRange.contains_iff, signed64, unsigned64] at h
  by_cases hsign : n < 0
  · have hvalue : -(n.natAbs : Int) = n := by omega
    have hrange : signed64.contains n = true := by
      simp only [IntegerRange.contains_iff, signed64]
      omega
    have hne : n.natAbs ≠ 0 := by omega
    simp only [Number.ofText, decimalValue_toDigits, Option.isNone_none, and_self, if_true, hsign,
      decide_true, hvalue, hrange, ne_eq, hne, not_false_eq_true]
  · have hvalue : (n.natAbs : Int) = n := by omega
    have hrange : unsigned64.contains n = true := by
      simp only [IntegerRange.contains_iff, unsigned64]
      omega
    simp only [Number.ofText, decimalValue_toDigits, Option.isNone_none, and_self, if_true, hsign,
      decide_false, Bool.false_eq_true, if_false, hvalue, hrange]

/-- A control character is written by the number of its code unit. -/
theorem hexValue?_control : ∀ n < 32,
    hexValue? ['0', '0', hexDigit (n / 16), hexDigit (n % 16)] = some n := by
  decide

/-- A character inside quotes is written for it. -/
theorem charsWritten_quotedChar (c : Char) {chars text : List Char} (h : CharsWritten chars text) :
    CharsWritten (c :: chars) (quotedChar c ++ text) := by
  unfold quotedChar
  split
  any_goals exact .short rfl h
  next hquote hescape _ _ _ _ _ =>
    split
    · next hcontrol =>
      have hsmall : c.toNat < 32 := hcontrol
      have hunit := CharsWritten.unit (hexValue?_control c.toNat hsmall) (by omega) h
      rwa [Char.ofNat_toNat] at hunit
    · next hblank => exact .plain hquote hescape (Char.not_lt.mp hblank) h

/-- A string in quotes is written for its content. -/
theorem charsWritten_quoted (chars : List Char) : CharsWritten chars (chars.flatMap quotedChar) := by
  induction chars with
  | nil => exact .nil
  | cons c chars ih =>
    rw [List.flatMap_cons]
    exact charsWritten_quotedChar c ih

/-- A value without blanks around it. -/
theorem Written.padded {value : Json} {text : List Char} (h : Written value text) :
    PaddedWritten value text := by
  simpa using @PaddedWritten.intro value [] text [] nofun h nofun

/-- What is written for the items of an array, in front of its end, and what it is. -/
theorem exists_itemsWritten {items : List Json} (hne : items ≠ [])
    (h : ∀ item ∈ items, ∃ text, Written item text ∧ ∀ rest, write item rest = text ++ rest) :
    ∃ text, ItemsWritten items text ∧ ∀ rest, writeItems items rest = text ++ rest := by
  induction items with
  | nil => exact absurd rfl hne
  | cons item items ih =>
    obtain ⟨⟨text, hitem, hwrite⟩, hitems⟩ := List.forall_mem_cons.mp h
    cases items with
    | nil => exact ⟨text, .last hitem.padded, hwrite⟩
    | cons next items =>
      obtain ⟨more, hmore, hwriteMore⟩ := ih (List.cons_ne_nil _ _) hitems
      refine ⟨text ++ ',' :: more, .cons hitem.padded hmore, fun rest => ?_⟩
      rw [writeItems, hwriteMore, hwrite, List.append_assoc, List.cons_append]

/-- What is written for the members of an object, in front of its end, and what it is. -/
theorem exists_membersWritten {members : List (String × Json)} (hne : members ≠ [])
    (h : ∀ member ∈ members,
      ∃ text, Written member.2 text ∧ ∀ rest, write member.2 rest = text ++ rest) :
    ∃ text, MembersWritten members text ∧ ∀ rest, writeMembers members rest = text ++ rest := by
  induction members with
  | nil => exact absurd rfl hne
  | cons member members ih =>
    obtain ⟨name, value⟩ := member
    obtain ⟨⟨text, hvalue, hwrite⟩, hmembers⟩ := List.forall_mem_cons.mp h
    have hmember := @MemberWritten.intro name value [] _ [] text nofun
      (charsWritten_quoted name.toList) nofun hvalue.padded
    cases members with
    | nil =>
      refine ⟨_, .last hmember, fun rest => ?_⟩
      simp [writeMembers, quoted, hwrite]
    | cons next members =>
      obtain ⟨more, hmore, hwriteMore⟩ := ih (List.cons_ne_nil _ _) hmembers
      refine ⟨_, .cons hmember hmore, fun rest => ?_⟩
      simp [writeMembers, quoted, hwrite, hwriteMore]

/-- What is written for a value without doubles. -/
theorem Formed.exists_written {value : Json} (h : value.Formed Number.Whole) :
    ∃ text, Written value text ∧ ∀ rest, write value rest = text ++ rest := by
  induction h with
  | null => exact ⟨_, .null, fun _ => rfl⟩
  | boolean value =>
    cases value
    · exact ⟨_, .false, fun _ => rfl⟩
    · exact ⟨_, .true, fun _ => rfl⟩
  | number hnumber =>
    cases hnumber with
    | @integer n hrange =>
      exact ⟨_, .number (numberWritten_toString n) (ofText_toDigits hrange), fun _ => rfl⟩
  | string content => exact ⟨_, .string (charsWritten_quoted content.toList), fun _ => rfl⟩
  | @array items _ ih =>
    by_cases hne : items = []
    · subst hne
      exact ⟨_, @Written.emptyArray [] nofun, fun _ => rfl⟩
    · obtain ⟨text, hitems, hwrite⟩ := exists_itemsWritten hne ih
      refine ⟨_, .array hitems, fun rest => ?_⟩
      simp [write, hwrite]
  | @object members _ _ ih =>
    by_cases hne : members = []
    · subst hne
      exact ⟨_, @Written.emptyObject [] nofun, fun _ => rfl⟩
    · obtain ⟨text, hmembers, hwrite⟩ := exists_membersWritten hne ih
      refine ⟨_, .object hmembers, fun rest => ?_⟩
      simp [write, hwrite]

/-- **The compact text of a value without doubles** is one of its texts. -/
theorem isText_compact {value : Json} (h : value.Formed Number.Whole) :
    IsText value value.compact := by
  obtain ⟨text, hwritten, hwrite⟩ := h.exists_written
  rw [IsText, compact, String.toList_ofList, hwrite, List.append_nil]
  exact hwritten.padded

/-! ### Texts of numbers -/

/-- Whether a character may stand in a number. -/
def isNumberChar (c : Char) : Bool :=
  c.isDigit || c = '-' || c = '+' || c = '.' || c = 'e' || c = 'E'

/-- What can stand behind a number is not part of one. -/
theorem Ends.isNumberChar_eq_false {c : Char} {rest : List Char} (h : Ends (c :: rest)) :
    isNumberChar c = false := by
  rcases h c rfl with hblank | rfl | rfl | rfl
  · simp only [isBlank, Bool.or_eq_true, decide_eq_true_eq] at hblank
    rcases hblank with ((rfl | rfl) | rfl) | rfl <;> decide
  all_goals decide

/-- A digit may stand in a number. -/
theorem isNumberChar_of_mem_toDigits {n : Nat} {c : Char} (h : c ∈ Nat.toDigits 10 n) :
    isNumberChar c = true := by
  rw [isNumberChar, isDigit_of_mem_toDigits h]
  rfl

/-- The characters of a decimal, all places of it written, among them the point. -/
theorem positional_chars (d : Decimal) :
    (∀ c ∈ (d.positional ".0").toList, isNumberChar c = true) ∧
      '.' ∈ (d.positional ".0").toList := by
  have hdigits : ∀ c ∈ d.digits.repr.toList, isNumberChar c = true := by
    rw [Nat.toList_repr]
    exact fun c => isNumberChar_of_mem_toDigits
  have hzeros (count : Nat) : ∀ c ∈ List.replicate count '0', isNumberChar c = true := by
    intro c hc
    rw [List.eq_of_mem_replicate hc]
    rfl
  rw [Decimal.positional]
  split
  · have htext : (String.ofList (d.digits.repr.toList ++ List.replicate d.exponent.toNat '0') ++
        ".0").toList = d.digits.repr.toList ++ List.replicate d.exponent.toNat '0' ++
          ['.', '0'] := by
      simp
    rw [htext]
    refine ⟨?_, by simp⟩
    simp only [List.forall_mem_append]
    exact ⟨⟨hdigits, hzeros _⟩, List.all_eq_true.mp rfl⟩
  · dsimp only
    have hpadded := List.forall_mem_append.mpr
      ⟨hzeros ((-d.exponent).toNat + 1 - d.digits.repr.toList.length), hdigits⟩
    rw [String.toList_ofList]
    refine ⟨?_, by simp⟩
    simp only [List.forall_mem_append, List.forall_mem_cons]
    exact ⟨fun c hc => hpadded c (List.mem_of_mem_take hc), rfl,
      fun c hc => hpadded c (List.mem_of_mem_drop hc)⟩

/-- The characters of a mantissa and an exponent, among them the mark of the exponent. -/
theorem exponent_chars {mantissa : List Char} (h : ∀ c ∈ mantissa, isNumberChar c = true)
    (negative : Prop) [Decidable negative] (place : Nat) :
    (∀ c ∈ (String.ofList mantissa ++ "e" ++ (if negative then "-" else "+") ++ place.repr).toList,
        isNumberChar c = true) ∧
      'e' ∈ (String.ofList mantissa ++ "e" ++ (if negative then "-" else "+") ++
        place.repr).toList := by
  have hsign : ∀ c ∈ (if negative then "-" else "+" : String).toList, isNumberChar c = true := by
    split <;> exact List.all_eq_true.mp rfl
  have htext : (String.ofList mantissa ++ "e" ++ (if negative then "-" else "+") ++
      place.repr).toList = mantissa ++ 'e' ::
        ((if negative then "-" else "+" : String).toList ++ Nat.toDigits 10 place) := by
    simp
  rw [htext]
  refine ⟨?_, List.mem_append_right _ List.mem_cons_self⟩
  simp only [List.forall_mem_append, List.forall_mem_cons]
  exact ⟨h, rfl, hsign, fun c => isNumberChar_of_mem_toDigits⟩

/-- The characters of a decimal with an exponent, among them its mark. -/
theorem scientific_chars (d : Decimal) :
    (∀ c ∈ d.scientific.toList, isNumberChar c = true) ∧ 'e' ∈ d.scientific.toList := by
  have hdigits : ∀ c ∈ d.digits.repr.toList, isNumberChar c = true := by
    rw [Nat.toList_repr]
    exact fun c => isNumberChar_of_mem_toDigits
  rw [Decimal.scientific]
  generalize d.digits.repr.toList = digits at hdigits
  rcases digits with _ | ⟨first, _ | ⟨next, rest⟩⟩
  · exact exponent_chars (List.forall_mem_nil _) _ _
  · exact exponent_chars hdigits _ _
  · obtain ⟨hfirst, hrest⟩ := List.forall_mem_cons.mp hdigits
    exact exponent_chars
      (List.forall_mem_cons.mpr ⟨hfirst, List.forall_mem_cons.mpr ⟨rfl, hrest⟩⟩) _ _

/-- The characters of a finite double, among them a point or the mark of an exponent. -/
theorem jsonDouble_chars {bits : UInt64} (h : (Number.double bits).WellFormed) :
    (∀ c ∈ (jsonDouble bits).toList, isNumberChar c = true) ∧
      ('.' ∈ (jsonDouble bits).toList ∨ 'e' ∈ (jsonDouble bits).toList) := by
  have hsigned (negative : Bool) {text : String}
      (htext : (∀ c ∈ text.toList, isNumberChar c = true) ∧ ('.' ∈ text.toList ∨ 'e' ∈ text.toList)) :
      (∀ c ∈ (signText negative ++ text).toList, isNumberChar c = true) ∧
        ('.' ∈ (signText negative ++ text).toList ∨ 'e' ∈ (signText negative ++ text).toList) := by
    have hsign : ∀ c ∈ (signText negative).toList, isNumberChar c = true := by
      cases negative <;> exact List.all_eq_true.mp rfl
    rw [String.toList_append]
    exact ⟨List.forall_mem_append.mpr ⟨hsign, htext.1⟩,
      htext.2.imp (List.mem_append_right _) (List.mem_append_right _)⟩
  cases h with
  | whole hwhole => cases hwhole
  | zero hbits =>
    rw [jsonDouble, hbits]
    exact hsigned _ ⟨List.all_eq_true.mp rfl, .inl (by decide)⟩
  | finite hbits =>
    rw [jsonDouble, hbits]
    dsimp only
    split
    · exact hsigned _ ((positional_chars _).imp_right .inl)
    · exact hsigned _ ((scientific_chars _).imp_right .inr)

/-- **The characters of a number**, of which there is at least one. -/
theorem number_chars {number : Number} (h : number.WellFormed) :
    number.compact ≠ [] ∧ ∀ c ∈ number.compact, isNumberChar c = true := by
  cases number with
  | integer n =>
    rw [Number.compact, toList_toString_int]
    refine ⟨fun hnil => Nat.toDigits_ne_nil (List.append_eq_nil_iff.mp hnil).2, ?_⟩
    refine List.forall_mem_append.mpr ⟨?_, fun c => isNumberChar_of_mem_toDigits⟩
    split <;> exact List.all_eq_true.mp rfl
  | double bits =>
    obtain ⟨hchars, hmark⟩ := jsonDouble_chars h
    refine ⟨fun hnil => ?_, hchars⟩
    rw [Number.compact] at hnil
    simp [hnil] at hmark

/-- **An integer is written like no other number.** -/
theorem number_compact_inj {number other : Number} (h : number.Whole) (hother : other.WellFormed)
    (heq : number.compact = other.compact) : number = other := by
  cases h with
  | @integer n _ =>
    cases other with
    | integer m => rw [toString_int_inj.mp (String.toList_injective heq)]
    | double bits =>
      have hdigits : ∀ c ∈ (Number.integer n).compact, c.isDigit = true ∨ c = '-' := by
        rw [Number.compact, toList_toString_int]
        refine List.forall_mem_append.mpr ⟨?_, fun c hc => .inl (isDigit_of_mem_toDigits hc)⟩
        split
        · exact fun c hc => .inr (List.mem_singleton.mp hc)
        · exact nofun
      rw [heq] at hdigits
      rcases (jsonDouble_chars hother).2 with hpoint | hmark
      · exact absurd (hdigits '.' hpoint) (by decide)
      · exact absurd (hdigits 'e' hmark) (by decide)

/-- A number in front of what can stand behind it ends where this begins. -/
theorem takeWhile_number {number : Number} (h : number.WellFormed) {rest : List Char}
    (hrest : Ends rest) : (number.compact ++ rest).takeWhile isNumberChar = number.compact := by
  rw [List.takeWhile_append_of_pos (number_chars h).2]
  cases rest with
  | nil => rw [List.takeWhile_nil, List.append_nil]
  | cons c rest =>
    rw [List.takeWhile_cons_of_neg (by rw [hrest.isNumberChar_eq_false]; exact Bool.false_ne_true),
      List.append_nil]

/-! ### Compact texts tell their values -/

/-- The **kinds of values**, as far as their first character tells. -/
inductive Kind
  | null
  | boolean
  | number
  | string
  | array
  | object

/-- The kind of a value. -/
def kind : Json → Kind
  | .null => .null
  | .boolean _ => .boolean
  | .number _ => .number
  | .string _ => .string
  | .array _ => .array
  | .object _ => .object

/-- The kind of value that a character opens, if it opens any. -/
def kindAt? (c : Char) : Option Kind :=
  if isNumberChar c then some .number
  else match c with
    | 'n' => some .null
    | 't' | 'f' => some .boolean
    | '"' => some .string
    | '[' => some .array
    | '{' => some .object
    | _ => none

/-- **The first character of a value tells its kind.** -/
theorem exists_write_eq_cons {value : Json} (h : value.Formed Number.WellFormed)
    (rest : List Char) : ∃ c tail, write value rest = c :: tail ∧ kindAt? c = some value.kind := by
  cases h with
  | null => exact ⟨_, _, rfl, rfl⟩
  | boolean value => cases value <;> exact ⟨_, _, rfl, rfl⟩
  | @number number hnumber =>
    obtain ⟨hne, hchars⟩ := number_chars hnumber
    obtain ⟨c, tail, hcompact⟩ := List.exists_cons_of_ne_nil hne
    refine ⟨c, tail ++ rest, ?_, if_pos (hchars c (hcompact ▸ List.mem_cons_self))⟩
    rw [write, hcompact, List.cons_append]
  | string content => exact ⟨_, _, rfl, rfl⟩
  | array _ => exact ⟨_, _, rfl, rfl⟩
  | object _ _ => exact ⟨_, _, rfl, rfl⟩

/-- Two values that are written alike are of one kind. -/
theorem kind_eq_of_write_eq {value other : Json} (h : value.Formed Number.WellFormed)
    (hother : other.Formed Number.WellFormed) {rest rest' : List Char}
    (heq : write value rest = write other rest') : value.kind = other.kind := by
  obtain ⟨c, tail, hwrite, hkind⟩ := exists_write_eq_cons h rest
  obtain ⟨c', tail', hwrite', hkind'⟩ := exists_write_eq_cons hother rest'
  rw [hwrite, hwrite'] at heq
  obtain ⟨rfl, -⟩ := List.cons.inj heq
  exact Option.some.inj (hkind.symm.trans hkind')

/-- A value is not written like a character that opens none. -/
theorem write_ne_cons {value : Json} (h : value.Formed Number.WellFormed) {c : Char}
    (hc : kindAt? c = none) (rest tail : List Char) : write value rest ≠ c :: tail := by
  intro heq
  obtain ⟨c', tail', hwrite, hkind⟩ := exists_write_eq_cons h rest
  rw [hwrite] at heq
  obtain ⟨rfl, -⟩ := List.cons.inj heq
  rw [hc] at hkind
  cases hkind

/-- Strings that are written alike are equal, and so is what comes after them. -/
theorem quoted_inj {content other : String} {rest rest' : List Char}
    (h : quoted content ++ rest = quoted other ++ rest') : content = other ∧ rest = rest' := by
  have htokens (content : String) (rest : List Char) :
      tokensFrom .between (quoted content ++ rest) =
        .string (some content) :: tokensFrom .between rest := by
    rw [quoted, List.cons_append, List.cons_append, List.append_assoc, List.singleton_append]
    exact tokensFrom_string (charsWritten_quoted content.toList) rest
  have hsame := htokens content rest
  rw [h, htokens other rest'] at hsame
  obtain ⟨hcontent, -⟩ := List.cons.inj hsame
  obtain rfl := Option.some.inj (Token.string.inj hcontent)
  exact ⟨rfl, List.append_cancel_left h⟩

/-- Whether **a part of a text is written like no other valid one**, in front of what can stand
behind a number. -/
def WrittenUniquely {α : Type} (writeOne : α → List Char → List Char) (valid : α → Prop) (a : α) :
    Prop :=
  ∀ b, valid b → ∀ rest rest', Ends rest → Ends rest' → writeOne a rest = writeOne b rest' →
    a = b ∧ rest = rest'

/-- Parts of a text, a comma between each two. -/
def writeAll {α : Type} (writeOne : α → List Char → List Char) : List α → List Char → List Char
  | [], rest => rest
  | [a], rest => writeOne a rest
  | a :: next :: as, rest => writeOne a (',' :: writeAll writeOne (next :: as) rest)

/-- The items of an array are such parts. -/
theorem writeItems_eq (items : List Json) (rest : List Char) :
    writeItems items rest = writeAll write items rest := by
  induction items with
  | nil => rfl
  | cons item items ih =>
    cases items with
    | nil => rfl
    | cons next items => rw [writeItems, writeAll, ih]

/-- A name and its value. -/
def writeMember (member : String × Json) (rest : List Char) : List Char :=
  quoted member.1 ++ ':' :: write member.2 rest

/-- The members of an object are such parts. -/
theorem writeMembers_eq (members : List (String × Json)) (rest : List Char) :
    writeMembers members rest = writeAll writeMember members rest := by
  induction members with
  | nil => rfl
  | cons member members ih =>
    cases members with
    | nil => rfl
    | cons next members => rw [writeMembers, writeAll, writeMember, ih]

/-- Behind a part stands the closing character or a comma. -/
theorem exists_writeAll_cons {α : Type} (writeOne : α → List Char → List Char) {close : Char}
    (hclose : close = ']' ∨ close = '}') (a : α) (as : List α) (rest : List Char) :
    ∃ c tail, writeAll writeOne (a :: as) (close :: rest) = writeOne a (c :: tail) ∧
      Ends (c :: tail) ∧ (as = [] ∧ c = close ∧ tail = rest ∨
        as ≠ [] ∧ c = ',' ∧ tail = writeAll writeOne as (close :: rest)) := by
  cases as with
  | nil => exact ⟨_, _, rfl, ends_cons (.inr hclose) _, .inl ⟨rfl, rfl, rfl⟩⟩
  | cons next as => exact ⟨_, _, rfl, ends_cons (.inl rfl) _, .inr ⟨nofun, rfl, rfl⟩⟩

/-- **Parts that are written alike** up to a closing character are equal, if each of them is written
uniquely and none begins with this character. -/
theorem writeAll_inj {α : Type} {writeOne : α → List Char → List Char} {valid : α → Prop}
    {close : Char} (hclose : close = ']' ∨ close = '}')
    (hopen : ∀ a, valid a → ∀ rest tail, writeOne a rest ≠ close :: tail) {as bs : List α}
    (has : ∀ a ∈ as, valid a ∧ WrittenUniquely writeOne valid a) (hbs : ∀ b ∈ bs, valid b)
    {rest rest' : List Char}
    (h : writeAll writeOne as (close :: rest) = writeAll writeOne bs (close :: rest')) :
    as = bs ∧ rest = rest' := by
  have hcomma : close ≠ ',' := by
    rintro rfl
    exact absurd hclose (by decide)
  induction as generalizing bs with
  | nil =>
    cases bs with
    | nil => exact ⟨rfl, (List.cons.inj h).2⟩
    | cons b bs =>
      obtain ⟨c, tail, hwrite, -⟩ := exists_writeAll_cons writeOne hclose b bs rest'
      exact absurd (hwrite.symm.trans h.symm) (hopen b (hbs b List.mem_cons_self) _ _)
  | cons a as ih =>
    obtain ⟨⟨hvalid, hunique⟩, has⟩ := List.forall_mem_cons.mp has
    obtain ⟨c, tail, hwrite, hends, htail⟩ := exists_writeAll_cons writeOne hclose a as rest
    cases bs with
    | nil => exact absurd (hwrite.symm.trans h) (hopen a hvalid _ _)
    | cons b bs =>
      obtain ⟨c', tail', hwrite', hends', htail'⟩ :=
        exists_writeAll_cons writeOne hclose b bs rest'
      obtain ⟨hfirst, hlater⟩ := List.forall_mem_cons.mp hbs
      obtain ⟨rfl, hbehind⟩ :=
        hunique b hfirst _ _ hends hends' (hwrite.symm.trans (h.trans hwrite'))
      obtain ⟨rfl, rfl⟩ := List.cons.inj hbehind
      -- The last part of one list is told from a part with others behind it by what stands there.
      rcases htail with ⟨rfl, rfl, rfl⟩ | ⟨-, rfl, rfl⟩
      · rcases htail' with ⟨rfl, -, rfl⟩ | ⟨-, hmark, -⟩
        · exact ⟨rfl, rfl⟩
        · exact absurd hmark hcomma
      · rcases htail' with ⟨-, hmark, -⟩ | ⟨-, -, hmore⟩
        · exact absurd hmark.symm hcomma
        · obtain ⟨rfl, rfl⟩ := ih has hlater hmore
          exact ⟨rfl, rfl⟩

/-- A member is written like no other one if its value is. -/
theorem writtenUniquely_member {member : String × Json}
    (h : WrittenUniquely write (Formed Number.WellFormed) member.2) :
    WrittenUniquely writeMember (fun member => member.2.Formed Number.WellFormed) member := by
  intro other hother rest rest' hrest hrest' heq
  obtain ⟨hname, hafter⟩ := quoted_inj heq
  obtain ⟨hvalue, rfl⟩ := h other.2 hother rest rest' hrest hrest' (List.cons.inj hafter).2
  exact ⟨Prod.ext hname hvalue, rfl⟩

/-- A value is written like no other one if it is not written like another one of its kind. -/
theorem WrittenUniquely.of_kind {value : Json} (hvalue : value.Formed Number.WellFormed)
    (h : ∀ other : Json, other.Formed Number.WellFormed → value.kind = other.kind →
      ∀ rest rest', Ends rest → Ends rest' → write value rest = write other rest' →
        value = other ∧ rest = rest') :
    WrittenUniquely write (Formed Number.WellFormed) value :=
  fun other hother rest rest' hrest hrest' heq =>
    h other hother (kind_eq_of_write_eq hvalue hother heq) rest rest' hrest hrest' heq

/-- **A value without doubles is written like no other one**, whatever comes behind it. -/
theorem Formed.writtenUniquely {value : Json} (h : value.Formed Number.Whole) :
    WrittenUniquely write (Formed Number.WellFormed) value := by
  have hwider {value : Json} (h : value.Formed Number.Whole) : value.Formed Number.WellFormed :=
    h.mono fun _ => .whole
  induction h with
  | null =>
    refine .of_kind .null fun other hother hkind rest rest' _ _ heq => ?_
    cases hother with
    | null => exact ⟨rfl, by simpa [write] using heq⟩
    | _ => cases hkind
  | boolean value =>
    refine .of_kind (.boolean value) fun other hother hkind rest rest' _ _ heq => ?_
    cases hother with
    | boolean other => cases value <;> cases other <;> simp [write] at heq ⊢ <;> exact heq
    | _ => cases hkind
  | @number number hnumber =>
    refine .of_kind (.number (.whole hnumber)) fun other hother hkind rest rest' hrest hrest' heq => ?_
    cases hother with
    | @number other hother =>
      have hcompact := congrArg (List.takeWhile isNumberChar) heq
      rw [write, write, takeWhile_number (.whole hnumber) hrest, takeWhile_number hother hrest']
        at hcompact
      obtain rfl := number_compact_inj hnumber hother hcompact
      exact ⟨rfl, List.append_cancel_left heq⟩
    | _ => cases hkind
  | string content =>
    refine .of_kind (.string content) fun other hother hkind rest rest' _ _ heq => ?_
    cases hother with
    | string other =>
      obtain ⟨rfl, rfl⟩ := quoted_inj heq
      exact ⟨rfl, rfl⟩
    | _ => cases hkind
  | array hitems ih =>
    refine .of_kind (.array fun item hmem => hwider (hitems item hmem))
      fun other hother hkind rest rest' _ _ heq => ?_
    cases hother with
    | array hothers =>
      rw [write, write, writeItems_eq, writeItems_eq] at heq
      obtain ⟨rfl, rfl⟩ := writeAll_inj (.inl rfl)
        (fun item hitem rest tail => write_ne_cons hitem rfl rest tail)
        (fun item hmem => ⟨hwider (hitems item hmem), ih item hmem⟩) hothers (List.cons.inj heq).2
      exact ⟨rfl, rfl⟩
    | _ => cases hkind
  | object hnames hmembers ih =>
    refine .of_kind (.object hnames fun member hmem => hwider (hmembers member hmem))
      fun other hother hkind rest rest' _ _ heq => ?_
    cases hother with
    | object _ hothers =>
      rw [write, write, writeMembers_eq, writeMembers_eq] at heq
      obtain ⟨rfl, rfl⟩ := writeAll_inj (.inr rfl)
        (fun member _ rest tail hopen => absurd (List.cons.inj hopen).1 (by decide))
        (fun member hmem => ⟨hwider (hmembers member hmem), writtenUniquely_member (ih member hmem)⟩)
        hothers (List.cons.inj heq).2
      exact ⟨rfl, rfl⟩
    | _ => cases hkind

/-- **A compact text tells its value**, if none of its numbers is a double: of all values that can
be read no other one has this text. -/
theorem compact_inj {value other : Json} (h : value.Formed Number.Whole)
    (hother : other.Formed Number.WellFormed) : other.compact = value.compact ↔ other = value := by
  refine ⟨fun heq => ?_, fun heq => heq ▸ rfl⟩
  have hwrite : write value [] = write other [] := (String.ofList_injective heq).symm
  exact (h.writtenUniquely other hother [] [] nofun nofun hwrite).1.symm

end LogFilter.Json
