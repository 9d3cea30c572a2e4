import LogFilter.Text.Visible

/-!
# Quoted Text

A text in quotes, as a message shows it: a quote and a backslash stand behind a backslash, and
a character that does not show by itself is written by its name or its code point.

## Main definitions

* `shownChar`: a character between quotes.
* `quoted`: a text between quotes.
-/

namespace LogFilter.Text

/-- A **character between quotes**. -/
def shownChar (c : Char) : List Char :=
  match c with
  | '"' => ['\\', '"']
  | '\\' => ['\\', '\\']
  | '\x00' => ['\\', '0']
  | '\t' => ['\\', 't']
  | '\n' => ['\\', 'n']
  | '\r' => ['\\', 'r']
  | c => if isVisible c then [c] else "\\u\x7b".toList ++ Nat.toDigits 16 c.toNat ++ ['}']

/-- A text **between quotes**. -/
def quoted (text : String) : String :=
  String.ofList ('"' :: text.toList.flatMap shownChar ++ ['"'])

end LogFilter.Text
