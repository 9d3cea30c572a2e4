import LogFilter.Json.Basic

/-!
# How JSON May Be Written

The texts that stand for a JSON value, as a grammar that does not mention the reader: blanks
between the parts, the members of an object in any order and with repeated names, characters as
they are or escaped in any of the possible ways, and all spellings of a number. What a text of the
grammar stands for is a value as it is written; only the digits of a number are understood.

The constructors follow the productions of the format. Arrays and objects without content are
productions of their own, so that a list of items or members is never empty.

## Main definitions

* `NumberWritten`, `CharsWritten`: the spellings of a number and of the content of a string.
* `Written`: the spellings of a value.
* `IsText`: whether a text is one of a value, with blanks around it.
-/

namespace LogFilter.Json

/-! ### Numbers -/

/-- Some **digits**, at least one. -/
def Digits (digits : List Char) : Prop :=
  digits ≠ [] ∧ ∀ c ∈ digits, c.isDigit = true

/-- The digits before a point: a zero in front is the only one of them. -/
def WholeDigits (digits : List Char) : Prop :=
  Digits digits ∧ (digits.head? = some '0' → digits = ['0'])

/-- The minus sign of a negative number. -/
def minusSign (negative : Bool) : List Char :=
  if negative then ['-'] else []

/-- The digits after the point, as they are written. -/
inductive FractionWritten : Option (List Char) → List Char → Prop
  | absent : FractionWritten none []
  | present {digits : List Char} : Digits digits → FractionWritten (some digits) ('.' :: digits)

/-- The exponent, as it is written: behind a mark of either case, and positive without a sign. -/
inductive ExponentWritten : Option (Bool × List Char) → List Char → Prop
  | absent : ExponentWritten none []
  | unsigned {mark : Char} {digits : List Char} : mark = 'e' ∨ mark = 'E' → Digits digits →
      ExponentWritten (some (false, digits)) (mark :: digits)
  | positive {mark : Char} {digits : List Char} : mark = 'e' ∨ mark = 'E' → Digits digits →
      ExponentWritten (some (false, digits)) (mark :: '+' :: digits)
  | negative {mark : Char} {digits : List Char} : mark = 'e' ∨ mark = 'E' → Digits digits →
      ExponentWritten (some (true, digits)) (mark :: '-' :: digits)

/-- A **number** as it is written. -/
inductive NumberWritten : NumberText → List Char → Prop
  | intro {negative : Bool} {whole after power : List Char} {fraction : Option (List Char)}
      {exponent : Option (Bool × List Char)} : WholeDigits whole →
      FractionWritten fraction after → ExponentWritten exponent power →
      NumberWritten ⟨negative, whole, fraction, exponent⟩
        (minusSign negative ++ (whole ++ (after ++ power)))

/-! ### Strings -/

/-- The **characters of a string**, and how they are written between its quotes: as they are, by a
short escape, by the number of a code unit, or by the numbers of the two halves of a surrogate
pair. -/
inductive CharsWritten : List Char → List Char → Prop
  | nil : CharsWritten [] []
  | plain {c : Char} {chars text : List Char} : c ≠ '"' → c ≠ '\\' → ' ' ≤ c →
      CharsWritten chars text → CharsWritten (c :: chars) (c :: text)
  | short {c e : Char} {chars text : List Char} : escaped? e = some c →
      CharsWritten chars text → CharsWritten (c :: chars) ('\\' :: e :: text)
  | unit {a b c d : Char} {unit : Nat} {chars text : List Char} :
      hexValue? [a, b, c, d] = some unit → unit < 0xD800 ∨ 0xDFFF < unit →
      CharsWritten chars text →
      CharsWritten (Char.ofNat unit :: chars) ('\\' :: 'u' :: a :: b :: c :: d :: text)
  | pair {a b c d a' b' c' d' : Char} {high low : Nat} {chars text : List Char} :
      hexValue? [a, b, c, d] = some high → 0xD800 ≤ high → high ≤ 0xDBFF →
      hexValue? [a', b', c', d'] = some low → 0xDC00 ≤ low → low ≤ 0xDFFF →
      CharsWritten chars text →
      CharsWritten (Char.ofNat (0x10000 + (high - 0xD800) * 0x400 + (low - 0xDC00)) :: chars)
        ('\\' :: 'u' :: a :: b :: c :: d :: '\\' :: 'u' :: a' :: b' :: c' :: d' :: text)

/-! ### Values -/

/-- Some **blanks**, or none. -/
def Blanks (text : List Char) : Prop :=
  ∀ c ∈ text, isBlank c = true

mutual

/-- A **value** as it may be written. -/
inductive Written : Json → List Char → Prop
  | null : Written .null ['n', 'u', 'l', 'l']
  | true : Written (.boolean .true) ['t', 'r', 'u', 'e']
  | false : Written (.boolean .false) ['f', 'a', 'l', 's', 'e']
  | number {number : NumberText} {value : Number} {text : List Char} :
      NumberWritten number text → Number.ofText number = some value →
      Written (.number value) text
  | string {content : String} {text : List Char} : CharsWritten content.toList text →
      Written (.string content) ('"' :: (text ++ ['"']))
  | emptyArray {blanks : List Char} : Blanks blanks → Written (.array []) ('[' :: (blanks ++ [']']))
  | array {items : List Json} {text : List Char} : ItemsWritten items text →
      Written (.array items) ('[' :: (text ++ [']']))
  | emptyObject {blanks : List Char} : Blanks blanks →
      Written (.object []) ('{' :: (blanks ++ ['}']))
  | object {members : List (String × Json)} {text : List Char} : MembersWritten members text →
      Written (.object members) ('{' :: (text ++ ['}']))

/-- A value with blanks around it. -/
inductive PaddedWritten : Json → List Char → Prop
  | intro {value : Json} {before text after : List Char} : Blanks before → Written value text →
      Blanks after → PaddedWritten value (before ++ (text ++ after))

/-- The items of an array, a comma between each two. -/
inductive ItemsWritten : List Json → List Char → Prop
  | last {item : Json} {text : List Char} : PaddedWritten item text → ItemsWritten [item] text
  | cons {item : Json} {items : List Json} {text more : List Char} : PaddedWritten item text →
      ItemsWritten items more → ItemsWritten (item :: items) (text ++ ',' :: more)

/-- A name and its value. -/
inductive MemberWritten : String → Json → List Char → Prop
  | intro {name : String} {value : Json} {before quoted between text : List Char} :
      Blanks before → CharsWritten name.toList quoted → Blanks between → PaddedWritten value text →
      MemberWritten name value (before ++ '"' :: (quoted ++ '"' :: (between ++ ':' :: text)))

/-- The members of an object, a comma between each two. -/
inductive MembersWritten : List (String × Json) → List Char → Prop
  | last {name : String} {value : Json} {text : List Char} : MemberWritten name value text →
      MembersWritten [(name, value)] text
  | cons {name : String} {value : Json} {members : List (String × Json)} {text more : List Char} :
      MemberWritten name value text → MembersWritten members more →
      MembersWritten ((name, value) :: members) (text ++ ',' :: more)

end

/-- Whether **a text is one of a value**, as it is written. -/
def IsText (value : Json) (text : String) : Prop :=
  PaddedWritten value text.toList

end LogFilter.Json
