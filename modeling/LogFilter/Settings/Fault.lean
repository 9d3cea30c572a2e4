import LogFilter.Decimal.Notation
import LogFilter.IntegerRange
import LogFilter.Settings.Tree
import LogFilter.Text.Quoted
import LogFilter.Toml.Number

/-!
# Faults in Settings

What can be wrong with settings, and how a message names the value that is wrong, the key that
it is set for and where it has been set.

## Main definitions

* `Fault`: what is wrong.
* `Fault.message`: the text that tells it.
-/

namespace LogFilter.Settings

/-- The sections of the settings. -/
inductive SectionName
  | compiler
  | store
  | server
  | log
  deriving DecidableEq, Repr

/-- The key of a section. -/
def SectionName.key : SectionName → String
  | .compiler => "compiler"
  | .store => "store"
  | .server => "server"
  | .log => "log"

/-- What a message calls a section. -/
def SectionName.label : SectionName → String
  | .compiler => "struct CompilerSettings"
  | .store => "struct StoreSettings"
  | .server => "struct ServerSettings"
  | .log => "struct LogSettings"

/-- The place of a value in a section: under a name, or by its number in a list. -/
inductive Place
  | member (name : String)
  | item (index : Nat)
  deriving DecidableEq, Repr

/-- The **key of a value**, through its section. -/
structure Key where
  part : SectionName
  place : Place
  deriving DecidableEq, Repr

/-- A key as a message names it. -/
def Key.text (key : Key) : String :=
  match key.place with
  | .member name => key.part.key ++ "." ++ name
  | .item index => key.part.key ++ "[" ++ index.repr ++ "]"

/-- What stands where something else is wanted. -/
inductive Found
  | atom (value : Atom)
  | list
  | table
  deriving DecidableEq, Repr

/-- The value of a tree as a message names it. -/
def Tree.found : Tree → Found
  | .atom value _ => .atom value
  | .list _ _ => .list
  | .table _ _ => .table

/-- What is wanted of a value. -/
inductive Wanted
  | text
  | boolean
  | integer
  | signed
  | unsigned
  deriving DecidableEq, Repr

/-- What a message calls that which is wanted. -/
def Wanted.label : Wanted → String
  | .text => "a string"
  | .boolean => "a boolean"
  | .integer => "an integer"
  | .signed => "an signed 64 bit or less integer"
  | .unsigned => "an unsigned 64 bit or less integer"

/-- The settings that are one of a few names. -/
inductive Choice
  | dialect
  | unknownFields
  deriving DecidableEq, Repr

/-- What a message calls such a setting. -/
def Choice.label : Choice → String
  | .dialect => "enum Dialect"
  | .unknownFields => "enum UnknownFieldPolicy"

/-- A **fault in the settings**. -/
inductive Fault
  /-- A file is not written in the language that its name tells. -/
  | malformedFile
  /-- A file holds a number that stands for none. -/
  | misfitNumber (fault : Toml.NumberFault) (name : String)
  /-- A file holds a single value or a list. -/
  | fileWithoutTable (found : Found) (name : String)
  /-- A section is a single value. -/
  | sectionWithoutTable (found : Atom) (part : SectionName)
  /-- A value is of a kind that cannot be taken for the one wanted. -/
  | wrongKind (found : Found) (wanted : Wanted) (key : Key) (origin : Option Origin)
  /-- A setting with a few names has another one. -/
  | unknownName (choice : Choice) (name : String) (key : Key)
  /-- A setting with a few names has none. -/
  | noName (choice : Choice) (key : Key)
  deriving DecidableEq, Repr

/-- What a message calls a value; of integers and doubles there are two ways to speak. -/
def Atom.labelWith (value : Atom) (integer : Int → String) (double : UInt64 → String) :
    String :=
  match value with
  | .null => "unit value"
  | .boolean value => "boolean `" ++ (if value then "true" else "false") ++ "`"
  | .integer value => integer value
  | .double bits => "floating point `" ++ double bits ++ "`"
  | .text content => "string " ++ Text.quoted content

/-- What a message calls a value, with the size of an integer. -/
def Found.label : Found → String
  | .atom value =>
      value.labelWith
        (fun n =>
          (if signed64.contains n then "64-bit integer `" else "64-bit unsigned integer `") ++
            toString n ++ "`")
        plainDouble
  | .list => "sequence"
  | .table => "map"

/-- A double with a point or an exponent in any case. -/
def pointedDouble (bits : UInt64) : String :=
  let text := plainDouble bits
  if text.toList.all fun c => c.isDigit || c == '-' then text ++ ".0" else text

/-- What a message calls a value in the place of a section. -/
def Atom.plainLabel (value : Atom) : String :=
  value.labelWith (fun n => "integer `" ++ toString n ++ "`") pointedDouble

/-- What a message says of an origin. -/
def originText : Option Origin → String
  | none => ""
  | some (.file name) => " in " ++ name
  | some .environment => " in the environment"

/-- What a message says of a wrong kind. -/
def kindText (found wanted : String) : String :=
  "invalid type: " ++ found ++ ", expected " ++ wanted

/-- What a message says of a key. -/
def keyText (key : String) : String :=
  " for key `" ++ key ++ "`"

/-- The **text that tells a fault**. A malformed file is told in no certain words. -/
def Fault.message? : Fault → Option String
  | .malformedFile => none
  | .misfitNumber fault name => some (fault.message ++ " in " ++ name)
  | .fileWithoutTable found name =>
      some (kindText found.label "a map" ++ " in " ++ name ++ " in " ++ name)
  | .sectionWithoutTable found part =>
      some (kindText found.plainLabel part.label ++ keyText part.key)
  | .wrongKind found wanted key origin =>
      some (kindText found.label wanted.label ++ keyText key.text ++ originText origin)
  | .unknownName choice name key =>
      some (choice.label ++ " does not have variant constructor " ++ name ++ keyText key.text)
  | .noName choice key =>
      some ("value of " ++ choice.label ++
        " should be represented by either string or table with exactly one key" ++
        keyText key.text)

end LogFilter.Settings
