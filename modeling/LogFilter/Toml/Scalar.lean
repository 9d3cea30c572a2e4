import LogFilter.Text.Parts
import LogFilter.Toml.Basic
import LogFilter.Toml.Moment

/-!
# Words in TOML

A value that is no string, array or table is a word: a boolean, a number or a moment.

## Main definitions

* `withoutUnderscores?`: the text of a number without the underscores among its digits.
* `decimal?`: the number or moment that a word without a base stands for.
* `scalar?`: the value that a word stands for.
-/

namespace LogFilter.Toml

/-- A digit in some base. -/
def isAnyDigit (c : Char) : Bool := (hexValue? c).isSome

/-- Whether the parts of a number behind an underscore are such that the underscores stand
between digits. -/
def standBetween (isDigit : Char → Bool) : List (List Char) → Bool
  | [] => true
  | part :: rest =>
      part.head?.any isDigit && (rest.isEmpty || part.getLast?.any isDigit) &&
        standBetween isDigit rest

/-- The text of a number **without its underscores**, which must stand between digits; the
first one may also stand behind a sign. -/
def withoutUnderscores? (isDigit : Char → Bool) (text : List Char) : Option (List Char) :=
  match Text.splitAt '_' text with
  | first :: next :: rest =>
      let begins := first.length = 1 || first.getLast?.any isDigit
      if begins && standBetween isDigit (next :: rest) then
        some (first ++ next ++ rest.flatten)
      else none
  | _ => some text

/-- The value that has been read, or what is wrong with it. -/
def Value.ofRead {α : Type} (ofValue : α → Value) : Except NumberFault α → Value
  | .ok value => ofValue value
  | .error fault => .misfit fault

/-- An integer in another base than ten. -/
def based? (base : Nat) (text : List Char) : Option Value :=
  if text.all fun c => c == '_' || (hexValue? c).any (· < base) then
    (withoutUnderscores? isAnyDigit text).map fun digits => .ofRead .integer (readBased base digits)
  else none

/-- The text behind digits, among which underscores may stand; there must be a digit, and
where it is said so none in front of others may be a zero. -/
def skipDigits? (leadingZero : Bool) (text : List Char) : Option (List Char) :=
  let written := text.takeWhile fun c => c.isDigit || c == '_'
  match written.countP Char.isDigit with
  | 0 => none
  | 1 => some (text.drop written.length)
  | _ => if !leadingZero && text.head? = some '0' then none else some (text.drop written.length)

/-- Whether a text without sign is a decimal: digits, a fraction and a power of ten. -/
def isPointed (text : List Char) : Bool :=
  (fromWhole? text).any List.isEmpty
where
  /-- The text behind a decimal. -/
  fromWhole? (text : List Char) : Option (List Char) := do
    match ← skipDigits? false text with
    | '.' :: rest => fromPower? (← skipDigits? true rest)
    | rest => fromPower? rest
  /-- The text behind a power of ten, if there is one. -/
  fromPower? : List Char → Option (List Char)
    | 'e' :: rest | 'E' :: rest => skipDigits? true (splitSign rest).2
    | rest => some rest

/-- The **number in base ten or the moment** that a word stands for. What follows its first
digits tells which of them it is. -/
def decimal? (word : List Char) : Option Value :=
  let text := (splitSign word).2
  let integer? := do
    let digits ← withoutUnderscores? isAnyDigit word
    if text.head? = some '0' ∧ text ≠ ['0'] then none
    else some (.ofRead .integer (readBased 10 digits))
  let rest := text.dropWhile Char.isDigit
  match rest.head? with
  | none => integer?
  | some '-' | some ':' => (momentText? word).map .moment
  | some first =>
      if rest.contains ' ' then none
      else if rest.any fun c => c = '.' || c = 'e' || c = 'E' then
        if isPointed text then
          (withoutUnderscores? Char.isDigit word).map fun text =>
            .ofRead .double (readPointed text)
        else none
      else if first = '_' then integer?
      else none

/-- The **value that a word stands for**. -/
def scalar? (word : List Char) : Option Value :=
  match word with
  | '0' :: 'x' :: digits => based? 16 digits
  | '0' :: 'o' :: digits => based? 8 digits
  | '0' :: 'b' :: digits => based? 2 digits
  | word =>
      match String.ofList word, String.ofList (splitSign word).2 with
      | "true", _ => some (.boolean true)
      | "false", _ => some (.boolean false)
      | _, "inf" | _, "nan" => some (.ofRead .double (readPointed word))
      | _, _ =>
          if ((splitSign word).2).head?.any fun c => c.isDigit || c == '_' then decimal? word
          else none

end LogFilter.Toml
