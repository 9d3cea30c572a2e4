/-!
# Tokens of a JSON Text

A text is cut into tokens by a machine that looks at one character at a time. What cannot be
read is a token too, and the last one: it records the cause, because what a fault is called
depends on what the reader of the token wanted.

## Main definitions

* `ReadError`: the three ways in which reading can fail.
* `Fault`: the cause that ends a text early, and what it is called when a value is kept, or
  skipped, or when a name was wanted.
* `NumberText`: a number as written.
* `Token`, `tokens`: the tokens of a text.
-/

namespace LogFilter.Json

/-- How **reading fails**. -/
inductive ReadError
  /-- The text is well formed so far, but not of the kind that is wanted. -/
  | mismatch
  /-- The text is not JSON. -/
  | malformed
  /-- The text ends inside a value. -/
  | unfinished
  deriving DecidableEq, Repr

/-- The **cause** that ends a text early. -/
inductive Fault
  /-- The text ends where something must follow. -/
  | ended
  /-- Something stands where it cannot. -/
  | stray
  /-- A word is misspelt, or the text ends inside it. -/
  | word (atEnd : Bool)
  /-- A number is misspelt, or the text ends inside it. -/
  | number (atEnd : Bool)
  /-- A string is misspelt, or the text ends inside it; `broken` if half of a surrogate pair
  stood alone before that. -/
  | string (broken atEnd : Bool)
  deriving DecidableEq, Repr

namespace Fault

/-- What a fault is called where the value is **kept**. -/
def kept : Fault → ReadError
  | ended | word true | number true | string false true => .unfinished
  | stray | word false | number false | string _ _ => .malformed

/-- What a fault is called where the value is **skipped**: half of a surrogate pair goes
unnoticed, and a number that the text breaks off is merely misspelt. -/
def skipped : Fault → ReadError
  | ended | word true | string _ true => .unfinished
  | stray | word false | number _ | string _ false => .malformed

/-- What a fault is called where a **name** is wanted, which only a quote can open. -/
def named : Fault → ReadError
  | ended => .unfinished
  | string broken atEnd => (string broken atEnd).kept
  | stray | word _ | number _ => .malformed

end Fault

/-- A **number as written**: digits before the point, after it, and in the exponent with
whether the exponent is negative. -/
structure NumberText where
  negative : Bool
  whole : List Char
  fraction : Option (List Char)
  exponent : Option (Bool × List Char)
  deriving DecidableEq, Repr

/-- A **token**. A string whose surrogates do not pair up has no content. -/
inductive Token
  | beginArray
  | endArray
  | beginObject
  | endObject
  | comma
  | colon
  | null
  | boolean (value : Bool)
  | number (text : NumberText)
  | string (content : Option String)
  | bad (fault : Fault)
  deriving DecidableEq, Repr

/-- Where a number stands after its last character. -/
inductive NumberPhase
  /-- After the minus sign. -/
  | minus
  /-- After a leading zero. -/
  | zero
  /-- Among the digits before the point. -/
  | whole
  /-- After the point. -/
  | point
  /-- Among the digits after the point. -/
  | fraction
  /-- After the exponent mark. -/
  | mark
  /-- After the sign of the exponent. -/
  | sign
  /-- Among the digits of the exponent. -/
  | exponent
  deriving DecidableEq, Repr

/-- What has been read of a **string**: its characters, last one first, whether half of a
surrogate pair stood alone, and the first half of a pair that still waits for the second. -/
structure StringPart where
  done : List Char
  broken : Bool
  high : Option Nat
  deriving DecidableEq, Repr

namespace StringPart

/-- The string after its opening quote. -/
def empty : StringPart := ⟨[], false, none⟩

/-- Adds a character, which leaves a waiting half alone. -/
def push (part : StringPart) (c : Char) : StringPart :=
  ⟨c :: part.done, part.broken || part.high.isSome, none⟩

/-- Adds the code unit of an escape: the second half completes the first one, the first half
waits, and any other half stands alone. -/
def pushUnit (part : StringPart) (unit : Nat) : StringPart :=
  let isLow := 0xDC00 ≤ unit && unit ≤ 0xDFFF
  let isHigh := 0xD800 ≤ unit && unit ≤ 0xDBFF
  match part.high with
  | some high =>
      if isLow then
        ⟨Char.ofNat (0x10000 + (high - 0xD800) * 0x400 + (unit - 0xDC00)) :: part.done,
          part.broken, none⟩
      else ⟨part.done, true, none⟩
  | none =>
      if isLow then ⟨part.done, true, none⟩
      else if isHigh then ⟨part.done, part.broken, some unit⟩
      else part.push (Char.ofNat unit)

/-- The content, unless half of a surrogate pair stands alone. -/
def content (part : StringPart) : Option String :=
  if part.broken || part.high.isSome then none else some (String.ofList part.done.reverse)

end StringPart

/-- What the machine is **in the middle of**. -/
inductive Mode
  | between
  /-- A word, of which `next` and `rest` are still to come. -/
  | word (next : Char) (rest : List Char) (token : Token)
  /-- A number, whose digits stand last one first. -/
  | number (phase : NumberPhase) (text : NumberText)
  | string (part : StringPart)
  /-- A string, after a backslash. -/
  | escape (part : StringPart)
  /-- A string, after `\u` and the characters of `window`, last one first. -/
  | unicode (part : StringPart) (window : List Char)
  deriving DecidableEq, Repr

/-- The value of a hexadecimal digit. -/
def hexDigit? (c : Char) : Option Nat :=
  if '0' ≤ c ∧ c ≤ '9' then some (c.toNat - '0'.toNat)
  else if 'a' ≤ c ∧ c ≤ 'f' then some (c.toNat - 'a'.toNat + 10)
  else if 'A' ≤ c ∧ c ≤ 'F' then some (c.toNat - 'A'.toNat + 10)
  else none

/-- The value of hexadecimal digits, most significant first. -/
def hexValue? (digits : List Char) : Option Nat :=
  digits.foldlM (fun value c => (hexDigit? c).map fun digit => value * 16 + digit) 0

/-- Whether a character is one of the four kinds of blank. -/
def isBlank (c : Char) : Bool :=
  c = ' ' || c = '\n' || c = '\t' || c = '\r'

/-- What one character does: the tokens that it completes, and the mode after it, or nothing
where the text cannot go on. -/
abbrev Step := List Token × Option Mode

/-- Ends the text with a fault. -/
def Step.fault (fault : Fault) : Step := ([.bad fault], none)

/-- A character outside of words, numbers and strings. -/
def stepBetween (c : Char) : Step :=
  if isBlank c then ([], some .between)
  else match c with
    | '[' => ([.beginArray], some .between)
    | ']' => ([.endArray], some .between)
    | '{' => ([.beginObject], some .between)
    | '}' => ([.endObject], some .between)
    | ',' => ([.comma], some .between)
    | ':' => ([.colon], some .between)
    | 'n' => ([], some (.word 'u' ['l', 'l'] .null))
    | 't' => ([], some (.word 'r' ['u', 'e'] (.boolean true)))
    | 'f' => ([], some (.word 'a' ['l', 's', 'e'] (.boolean false)))
    | '"' => ([], some (.string .empty))
    | '-' => ([], some (.number .minus ⟨true, [], none, none⟩))
    | '0' => ([], some (.number .zero ⟨false, ['0'], none, none⟩))
    | c =>
        if c.isDigit then ([], some (.number .whole ⟨false, [c], none, none⟩))
        else .fault .stray

/-- The number as written, its digits put in reading order. -/
def NumberText.finish (text : NumberText) : NumberText :=
  { text with
    whole := text.whole.reverse
    fraction := text.fraction.map List.reverse
    exponent := text.exponent.map fun e => (e.1, e.2.reverse) }

/-- A character after a number that may end here. -/
def afterNumber (text : NumberText) (c : Char) : Step :=
  let (tokens, mode) := stepBetween c
  (.number text.finish :: tokens, mode)

/-- A digit of the exponent. -/
def NumberText.pushExponent (text : NumberText) (c : Char) : NumberText :=
  { text with exponent := text.exponent.map fun e => (e.1, c :: e.2) }

/-- A character inside or right after a number. -/
def stepNumber (phase : NumberPhase) (text : NumberText) (c : Char) : Step :=
  let goOn := fun phase text => (([], some (.number phase text)) : Step)
  let misspelt : Step := .fault (.number false)
  let isMark := c = 'e' || c = 'E'
  let toFraction := goOn .point { text with fraction := some [] }
  let toExponent := goOn .mark { text with exponent := some (false, []) }
  match phase with
  | .minus =>
      if c = '0' then goOn .zero { text with whole := [c] }
      else if c.isDigit then goOn .whole { text with whole := [c] }
      else misspelt
  | .zero =>
      if c.isDigit then misspelt
      else if c = '.' then toFraction
      else if isMark then toExponent
      else afterNumber text c
  | .whole =>
      if c.isDigit then goOn .whole { text with whole := c :: text.whole }
      else if c = '.' then toFraction
      else if isMark then toExponent
      else afterNumber text c
  | .point | .fraction =>
      if c.isDigit then
        goOn .fraction { text with fraction := text.fraction.map fun digits => c :: digits }
      else if phase = .point then misspelt
      else if isMark then toExponent
      else afterNumber text c
  | .mark =>
      if c = '+' then goOn .sign text
      else if c = '-' then goOn .sign { text with exponent := some (true, []) }
      else if c.isDigit then goOn .exponent (text.pushExponent c)
      else misspelt
  | .sign => if c.isDigit then goOn .exponent (text.pushExponent c) else misspelt
  | .exponent =>
      if c.isDigit then goOn .exponent (text.pushExponent c) else afterNumber text c

/-- The character that a backslash and `c` stand for, other than a code unit. -/
def escaped? (c : Char) : Option Char :=
  match c with
  | '"' => some '"'
  | '\\' => some '\\'
  | '/' => some '/'
  | 'b' => some '\x08'
  | 'f' => some '\x0c'
  | 'n' => some '\n'
  | 'r' => some '\r'
  | 't' => some '\t'
  | _ => none

/-- A character of the four bytes that must follow `\u`. They are looked at together, so a
text that ends among them is cut short even if what is left are no digits. -/
def stepUnicode (part : StringPart) (window : List Char) (c : Char) : Step :=
  let window := c :: window
  if window.foldl (fun size c => size + c.utf8Size) 0 < 4 then ([], some (.unicode part window))
  else match hexValue? window.reverse with
    | some unit => ([], some (.string (part.pushUnit unit)))
    | none => .fault (.string part.broken false)

/-- What **one character** does in a mode. -/
def step (mode : Mode) (c : Char) : Step :=
  match mode with
  | .between => stepBetween c
  | .word next rest token =>
      if c = next then
        match rest with
        | [] => ([token], some .between)
        | next :: rest => ([], some (.word next rest token))
      else .fault (.word false)
  | .number phase text => stepNumber phase text c
  | .string part =>
      if c = '"' then ([.string part.content], some .between)
      else if c = '\\' then ([], some (.escape part))
      else if c < ' ' then .fault (.string part.broken false)
      else ([], some (.string (part.push c)))
  | .escape part =>
      if c = 'u' then ([], some (.unicode part []))
      else match escaped? c with
        | some plain => ([], some (.string (part.push plain)))
        | none => .fault (.string part.broken false)
  | .unicode part window => stepUnicode part window c

/-- The last tokens of a text that ends in a mode. -/
def atEnd : Mode → List Token
  | .between => []
  | .word _ _ _ => [.bad (.word true)]
  | .number phase text =>
      match phase with
      | .zero | .whole | .fraction | .exponent => [.number text.finish]
      | .minus | .point | .mark | .sign => [.bad (.number true)]
  | .string part | .escape part | .unicode part _ => [.bad (.string part.broken true)]

/-- The tokens of a text, read from a mode on. -/
def tokensFrom : Mode → List Char → List Token
  | mode, [] => atEnd mode
  | mode, c :: rest =>
      match step mode c with
      | (tokens, some next) => tokens ++ tokensFrom next rest
      | (tokens, none) => tokens

/-- The **tokens** of a text. -/
def tokens (text : String) : List Token :=
  tokensFrom .between text.toList

end LogFilter.Json
