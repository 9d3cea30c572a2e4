import LogFilter.Json.Decode
import LogFilter.Settings.Fault
import LogFilter.Toml.Reader

/-!
# Languages of Files

A file of settings is written in TOML, in JSON or in some other format. What such a format looks
like is not fixed here: it is given by the extensions of its files and by what a file sets.

## Main definitions

* `Format`: a format that is given from outside.
* `Language`: what a file is written in.
* `Language.read`: what a file sets.
-/

namespace LogFilter

namespace Settings

mutual

/-- What a JSON value sets. -/
def ofJson (origin : Origin) : Json → Tree
  | .null => .atom .null (some origin)
  | .boolean value => .atom (.boolean value) (some origin)
  | .number (.integer value) => .atom (.integer value) (some origin)
  | .number (.double bits) => .atom (.double bits) (some origin)
  | .string content => .atom (.text content) (some origin)
  | .array items => .list (ofJsonItems origin items) (some origin)
  | .object members => .table (ofJsonMembers origin members) (some origin)

/-- What the items of an array set. -/
def ofJsonItems (origin : Origin) : List Json → List Tree
  | [] => []
  | item :: rest => ofJson origin item :: ofJsonItems origin rest

/-- What the members of an object set. -/
def ofJsonMembers (origin : Origin) : List (String × Json) → List (String × Tree)
  | [] => []
  | (name, value) :: rest => (name, ofJson origin value) :: ofJsonMembers origin rest

end

/-- The values of members in the order of their names; the first one that is at fault is told. -/
def inNameOrder {α ε : Type} (members : List (String × Except ε α)) :
    Except ε (List (String × α)) :=
  (sortByName members).mapM fun (name, value) => value.map fun value => (name, value)

mutual

/-- What a TOML value sets, unless there is a number in it that stands for none. -/
def ofToml (origin : Origin) : Toml.Value → Except Toml.NumberFault Tree
  | .text content => .ok (.atom (.text content) (some origin))
  | .integer value => .ok (.atom (.integer value) (some origin))
  | .double bits => .ok (.atom (.double bits) (some origin))
  | .boolean value => .ok (.atom (.boolean value) (some origin))
  | .moment text => .ok (.atom (.text text) (some origin))
  | .misfit fault => .error fault
  | .array items => (ofTomlItems origin items).map fun items => .list items (some origin)
  | .table _ members =>
      (inNameOrder (ofTomlMembers origin members)).map fun members =>
        .table members (some origin)
  | .tables earlier last => do
      let earlier ← ofTomlItems origin earlier
      let last ← inNameOrder (ofTomlMembers origin last)
      return .list (earlier ++ [.table last (some origin)]) (some origin)

/-- What the items of an array set. -/
def ofTomlItems (origin : Origin) : List Toml.Value → Except Toml.NumberFault (List Tree)
  | [] => .ok []
  | item :: rest => do
      let item ← ofToml origin item
      return item :: (← ofTomlItems origin rest)

/-- What each member of a table sets. -/
def ofTomlMembers (origin : Origin) :
    List (String × Toml.Value) → List (String × Except Toml.NumberFault Tree)
  | [] => []
  | (name, value) :: rest => (name, ofToml origin value) :: ofTomlMembers origin rest

end

/-- A **format that is given from outside**: the extensions of its files, and what a file with a
name and a content sets. -/
structure Format where
  extensions : List String
  read : (name content : String) → Except Fault (List (String × Tree))
  /-- A file sets every key once. -/
  namedOnce_of_read : ∀ {name content : String} {source : List (String × Tree)},
    read name content = .ok source → NamedOnce Tree.Distinct source

/-- The **language** that a file is written in. -/
inductive Language
  | toml
  | json
  | other (format : Format)

/-- The extensions of the files in a language. -/
def Language.extensions : Language → List String
  | .toml => ["toml"]
  | .json => ["json"]
  | .other format => format.extensions

/-- A text without the mark that some editors put in front of it. -/
def unmarked (text : String) : String :=
  String.ofList (Toml.withoutMark text.toList)

/-- What a **file in a language** sets, key by key. -/
def Language.read (language : Language) (name content : String) :
    Except Fault (List (String × Tree)) :=
  match language with
  | .toml =>
      match Toml.read? (unmarked content) with
      | some members =>
          (inNameOrder (ofTomlMembers (.file name) members)).mapError (.misfitNumber · name)
      | none => .error .malformedFile
  | .json =>
      match Json.readWhole (Json.ofDocument Json.maxDepth) (unmarked content) with
      | .ok value =>
          match ofJson (.file name) value with
          | .table members _ => .ok members
          | tree => .error (.fileWithoutTable tree.found name)
      | .error _ => .error .malformedFile
  | .other format => format.read name content

end Settings

end LogFilter
