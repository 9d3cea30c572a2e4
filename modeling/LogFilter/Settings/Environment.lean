import LogFilter.Decimal.Reading
import LogFilter.IntegerRange
import LogFilter.Settings.Tree
import LogFilter.Text.LowerCase

/-!
# Settings in the Environment

A variable sets a value if its name begins as those of this program do. Letters count the same
in either case, and two underscores in a row stand between the parts of a path. The text of a
variable stands for the first of these that it can be read as: a boolean, an integer of 64
bits, a double, a text.

## Main definitions

* `variableKey?`: the key that a variable sets.
* `Atom.ofText`: the value that a text stands for.
* `environmentSource`: what all variables set.
-/

namespace LogFilter.Settings

/-- How the name of a variable begins that sets a value, in small letters. -/
def variableStart : String := "logsift__"

/-- Points in place of pairs of underscores. -/
def pointed : List Char → List Char
  | '_' :: '_' :: rest => '.' :: pointed rest
  | c :: rest => c :: pointed rest
  | [] => []

/-- The **key that a variable sets**, if it sets any. -/
def variableKey? (name : String) : Option String :=
  let letters := (Text.lowerCase name).toList
  if variableStart.toList.isPrefixOf letters then
    some (String.ofList (pointed (letters.drop variableStart.length)))
  else none

/-- The **value that a text stands for**. -/
def Atom.ofText (text : String) : Atom :=
  match Text.lowerCase text with
  | "true" => .boolean true
  | "false" => .boolean false
  | _ =>
      match (readInteger? text).filter signed64.contains, readDouble? text with
      | some n, _ => .integer n
      | none, some bits => .double bits
      | none, none => .text text

/-- What the variables of the environment set, key by key. -/
def environmentSource (environment : List (String × String)) : List (String × Tree) :=
  environment.filterMap fun (name, text) =>
    (variableKey? name).map fun key => (key, .atom (Atom.ofText text) (some .environment))

end LogFilter.Settings
