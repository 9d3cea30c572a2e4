import LogFilter.Toml.Number

/-!
# TOML Documents

A TOML document is a table that statements fill one after the other: a header opens the table
that the next pairs belong to, and a pair sets a key in it. A document may say nothing twice,
so each table remembers how it has come about, and with it who may still add to it.

## Main definitions

* `Value`, `Members`: values and the members of tables.
* `Statement`: what a document consists of.
* `setPair`, `openTable`, `openItem`: what the statements do.
* `Members.ofStatements`: the members of a whole document.
-/

namespace LogFilter.Toml

/-- How a table **has come about**, which says who may add to it. -/
inductive TableKind
  /-- A header has named a table inside it. -/
  | implied
  /-- The key of a pair has named something inside it. -/
  | dotted
  /-- A header has named it. -/
  | opened
  /-- It is written as a value. -/
  | closed
  deriving DecidableEq, Repr

/-- A **value**. -/
inductive Value
  | text (content : String)
  | integer (value : Int)
  /-- A double, by its bits. -/
  | double (bits : UInt64)
  | boolean (value : Bool)
  /-- A date, a time or both, in its usual form. -/
  | moment (text : String)
  /-- A number that stands for none. -/
  | misfit (fault : NumberFault)
  | array (items : List Value)
  | table (kind : TableKind) (members : List (String × Value))
  /-- Tables under one header: the earlier ones, and the members of the last one. -/
  | tables (earlier : List Value) (last : List (String × Value))
  deriving Repr

/-- The **members of a table**, in order of their first mention. -/
abbrev Members := List (String × Value)

/-- A **key**: the names of the tables it leads through, and the name in the last of them. -/
structure Key where
  path : List String
  last : String
  deriving DecidableEq, Repr

/-- All names of a key. -/
def Key.names (key : Key) : List String := key.path ++ [key.last]

/-- A **statement** of a document. -/
inductive Statement
  /-- The header of a table. -/
  | table (key : Key)
  /-- The header of one more table in a list of tables. -/
  | item (key : Key)
  | pair (key : Key) (value : Value)
  deriving Repr

/-- Changes the member with a name, or adds it; nothing if the change is not allowed. -/
def Members.change (name : String) (f : Option Value → Option Value) :
    Members → Option Members
  | [] => (f none).map fun value => [(name, value)]
  | entry :: rest =>
      if entry.1 = name then (f (some entry.2)).map fun value => (name, value) :: rest
      else (Members.change name f rest).map (entry :: ·)

/-- Changes the table that a **header** leads to. A header leads through every table but one
that is written as a value, and through the last one of several tables. -/
def alongHeader (f : Members → Option Members) : List String → Members → Option Members
  | [], members => f members
  | name :: path, members =>
      members.change name fun
        | none => (alongHeader f path []).map (.table .implied)
        | some (.table .closed _) => none
        | some (.table kind inner) => (alongHeader f path inner).map (.table kind)
        | some (.tables earlier last) => (alongHeader f path last).map (.tables earlier)
        | some _ => none

/-- Changes the table that the **key of a pair** leads to, which then has come about by the keys
of pairs. It must have no header of its own, and neither must a table on the way to it, which
may also be the last one of several tables. -/
def alongKey (f : Members → Option Members) : List String → Members → Option Members
  | [], members => f members
  | name :: path, members =>
      members.change name fun
        | none => (alongKey f path []).map (.table .dotted)
        | some (.table .dotted inner) => (alongKey f path inner).map (.table .dotted)
        | some (.table .implied inner) =>
            (alongKey f path inner).map (.table (if path.isEmpty then .dotted else .implied))
        | some (.tables earlier last) =>
            if path.isEmpty then none else (alongKey f path last).map (.tables earlier)
        | some _ => none

/-- **Sets a key**, which must be new. -/
def setPair (key : Key) (value : Value) (members : Members) : Option Members :=
  alongKey (·.change key.last fun
    | none => some value
    | some _ => none) key.path members

/-- **Opens a table**, which must be new, but may be implied by the header of another one. -/
def openTable (key : Key) (members : Members) : Option Members :=
  alongHeader (·.change key.last fun
    | none => some (.table .opened [])
    | some (.table .implied inner) => some (.table .opened inner)
    | some _ => none) key.path members

/-- **Opens one more table** in a list of tables. -/
def openItem (key : Key) (members : Members) : Option Members :=
  alongHeader (·.change key.last fun
    | none => some (.tables [] [])
    | some (.tables earlier last) => some (.tables (earlier ++ [.table .opened last]) [])
    | some _ => none) key.path members

/-- A document as far as it has been read: its members, and the table that pairs belong to. -/
structure Progress where
  root : Members := []
  current : List String := []

/-- What a statement does; nothing if it says something twice. -/
def Progress.add (progress : Progress) : Statement → Option Progress
  | .table key => (openTable key progress.root).map fun root => ⟨root, key.names⟩
  | .item key => (openItem key progress.root).map fun root => ⟨root, key.names⟩
  | .pair key value =>
      (alongHeader (setPair key value) progress.current progress.root).map fun root =>
        { progress with root }

/-- The **members of a document**; nothing if its statements contradict each other. -/
def Members.ofStatements (statements : List Statement) : Option Members :=
  (statements.foldlM Progress.add {}).map Progress.root

end LogFilter.Toml
