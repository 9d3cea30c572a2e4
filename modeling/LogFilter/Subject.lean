import LogFilter.Sql.Basic

/-!
# Subjects

What filters can be applied to: logged calls, with their responses and tags, and dataset
entries. A subject fixes the tables and columns of its queries, so none of these names ever
comes from a caller.

## Main definitions

* `KnownField`: the fields that are bound to a column.
* `TagTable`: a side table of named values.
* `Subject`: the two subjects, with their tables, scope, order and fields.
* `Subject.field?`: the known field of a name, letter for letter.
-/

namespace LogFilter

open Sql

/-- A **known field**: a field that reads one column. -/
inductive KnownField
  | request
  | response
  | model
  | statusCode
  | input
  | output
  deriving DecidableEq, Repr

namespace KnownField

/-- The name by which filters refer to a field. -/
def name : KnownField → String
  | request => "Request"
  | response => "Response"
  | model => "model"
  | statusCode => "Status Code"
  | input => "Input"
  | output => "Output"

/-- The column that a field reads. -/
def column : KnownField → Column
  | request => ⟨"lcmr", "reqPayload"⟩
  | response => ⟨"lcmr", "respPayload"⟩
  | model => ⟨"lc", "model"⟩
  | statusCode => ⟨"lcmr", "statusCode"⟩
  | input => ⟨"de", "messages"⟩
  | output => ⟨"de", "output"⟩

/-- What a comparator is applied to: the text of the column. -/
def operand (field : KnownField) : Operand := .text field.column

end KnownField

/-- A **tag table**: a side table of named values, each belonging to a parent record. -/
structure TagTable where
  table : String
  /-- What the alias of every join of this table starts with. -/
  aliasStem : String
  parent : String
  name : String
  value : String
  deriving DecidableEq, Repr

/-- A **subject**: what filters are applied to. -/
inductive Subject
  | loggedCalls
  | datasetEntries
  deriving DecidableEq, Repr

namespace Subject

/-- The base table. -/
def table : Subject → String
  | loggedCalls => "LoggedCall"
  | datasetEntries => "DatasetEntry"

/-- The alias of the base table. -/
def tableAlias : Subject → String
  | loggedCalls => "lc"
  | datasetEntries => "de"

/-- The column that identifies a record. -/
def id (subject : Subject) : Column := ⟨subject.tableAlias, "id"⟩

/-- The column by which records are ordered, newest first. -/
def orderBy : Subject → Column
  | loggedCalls => ⟨"lc", "requestedAt"⟩
  | datasetEntries => ⟨"de", "createdAt"⟩

/-- The joins that every query has: a logged call is joined to its response. -/
def joins : Subject → List LeftJoin
  | loggedCalls =>
      [⟨"LoggedCallModelResponse", "lcmr",
        [.columnsEq loggedCalls.id ⟨"lcmr", "originalLoggedCallId"⟩]⟩]
  | datasetEntries => []

/-- The conditions that hold a query to one project or one dataset. Outdated dataset entries
are out of every scope. -/
def scope (subject : Subject) (scopeId : String) : List Predicate :=
  match subject with
  | loggedCalls => [.eq (.column ⟨"lc", "projectId"⟩) (.text scopeId)]
  | datasetEntries =>
      [.eq (.column ⟨"de", "datasetId"⟩) (.text scopeId),
        .eq (.column ⟨"de", "outdated"⟩) (.boolean false)]

/-- The column of a record's status, where it has one. -/
def status : Subject → Option Column
  | loggedCalls => some ⟨"lcmr", "statusCode"⟩
  | datasetEntries => none

/-- The table of a record's tags, where it has any. -/
def tags : Subject → Option TagTable
  | loggedCalls => some ⟨"LoggedCallTag", "lct", "loggedCallId", "name", "value"⟩
  | datasetEntries => none

/-- The known fields. -/
def fields : Subject → List KnownField
  | loggedCalls => [.request, .response, .model, .statusCode]
  | datasetEntries => [.input, .output]

/-- The **known field of a name**, letter for letter; every other name is that of a tag. -/
def field? (subject : Subject) (name : String) : Option KnownField :=
  subject.fields.find? fun field => field.name == name

end Subject

end LogFilter
