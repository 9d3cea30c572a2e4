import LogFilter.Settings.Fault

/-!
# Causes of Failure

Everything that can go wrong with a request, as one type of causes. A cause carries only
what its message needs, and the wording is written once, in `Error.message`.

## Main definitions

* `Error`: the causes, from an unknown comparator to a statement the store refuses.
* `ErrorKind`: the family a cause belongs to, which opens its message.
* `Error.message`: the text shown to a caller.
* `Error.isValidation`: the causes that lie in the caller's own filters.
-/

namespace LogFilter

/-- The **type of a stored value**, as a failed read names it. -/
inductive CellKind
  | null
  | integer
  | text
  deriving DecidableEq, Repr

/-- The name of a value's type in a message. -/
def CellKind.label : CellKind → String
  | .null => "Null"
  | .integer => "Integer"
  | .text => "Text"

/-- The **family** of a cause. -/
inductive ErrorKind
  | unknownComparator
  | invalidFieldReference
  | conflict
  | config
  | persistence
  | execution
  deriving DecidableEq, Repr

/-- The words that open every message of a family. -/
def ErrorKind.label : ErrorKind → String
  | .unknownComparator => "Unknown comparator"
  | .invalidFieldReference => "Invalid field reference"
  | .conflict => "Conflict"
  | .config => "Config error"
  | .persistence => "Persistence error"
  | .execution => "Execution error"

/-- A **cause of failure**. -/
inductive Error
  /-- A filter with a value names no comparator. -/
  | unknownComparator (token : String)
  /-- A filter names a field that is neither a column nor an accepted tag. -/
  | unknownField (name : String)
  /-- A logged call with this id is already recorded. -/
  | callExists (id : String)
  /-- A dataset entry with the same id is already stored. -/
  | entryExists
  /-- A query joins more tables than the store can. -/
  | tooManyTables
  /-- A query names more tables than the store reads. -/
  | tooManyTerms
  /-- A statement has more placeholders than the store allows; the first one too many is at this
  byte of its text. -/
  | tooManyParams (sql : String) (offset : Nat)
  /-- A condition nests more deeply than the store allows. -/
  | expressionTooDeep
  /-- A pattern is too long to be matched against a value. -/
  | patternTooLong
  /-- A single value was asked of a result without rows. -/
  | noRows
  /-- The first column of a result holds a value of another type than the one asked for. -/
  | wrongCell (kind : CellKind) (column : String)
  /-- The statement is written for the dialect that the store does not run. -/
  | foreignDialect
  /-- A count is negative. -/
  | countOutOfRange
  /-- The settings cannot be read. -/
  | settings (fault : Settings.Fault)
  deriving DecidableEq, Repr

namespace Error

/-- The family that a cause belongs to. -/
def kind : Error → ErrorKind
  | unknownComparator _ => .unknownComparator
  | unknownField _ => .invalidFieldReference
  | callExists _ => .conflict
  | entryExists | tooManyTables | tooManyTerms | tooManyParams _ _ | expressionTooDeep
  | patternTooLong | noRows | wrongCell _ _ => .persistence
  | foreignDialect | countOutOfRange => .execution
  | settings _ => .config

/-- What a message says after its family's words. -/
def detail : Error → String
  | unknownComparator token => token
  | unknownField name => name
  | callExists id => "logged call " ++ id ++ " already exists"
  | entryExists => "UNIQUE constraint failed: DatasetEntry.id"
  | tooManyTables => "at most 64 tables in a join"
  | tooManyTerms => "too many FROM clause terms, max: 200"
  | tooManyParams sql offset =>
      "variable number must be between ?1 and ?32766 in " ++ sql ++ " at offset " ++
        toString offset
  | expressionTooDeep => "Expression tree is too large (maximum depth 1000)"
  | patternTooLong => "LIKE or GLOB pattern too complex"
  | noRows => "Query returned no rows"
  | wrongCell kind column =>
      "Invalid column type " ++ kind.label ++ " at index: 0, name: " ++ column
  | foreignDialect => "the store executes SQLite queries, got Postgres"
  | countOutOfRange => "out of range integral type conversion attempted"
  | settings fault => fault.message?.getD ""

/-- The **message** shown for a cause: its family, a colon and the detail. -/
def message (e : Error) : String :=
  e.kind.label ++ ": " ++ e.detail

/-- Whether the cause lies in the caller's filters rather than in the store. -/
def isValidation (e : Error) : Bool :=
  e.kind == .unknownComparator || e.kind == .invalidFieldReference

end Error

end LogFilter
