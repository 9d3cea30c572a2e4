/-!
# Conditions over Joined Tables

The vocabulary of a query's conditions: columns of aliased tables, the values compared with
them, and the predicates that compare. Every value that a caller supplies is a `Scalar`; no
predicate holds caller text anywhere else.

## Main definitions

* `Dialect`, `Scalar`, `Column`, `Operand`: what a predicate is about.
* `LikePattern`: a pattern with wildcards, and the two ways to search for a substring.
* `Predicate`: a condition on one row of joined tables.
* `LeftJoin`: a table joined to the rows before it under an alias.
-/

namespace LogFilter.Sql

/-- The **dialect** a query is written in. -/
inductive Dialect
  | postgres
  | sqlite
  deriving DecidableEq, Repr

/-- The name of a dialect in requests and settings. -/
def Dialect.name : Dialect → String
  | .postgres => "postgres"
  | .sqlite => "sqlite"

/-- A **bound value**: what stands behind a placeholder. -/
inductive Scalar
  | text (content : String)
  | integer (value : Int)
  | boolean (flag : Bool)
  deriving DecidableEq, Repr

/-- A **column**, qualified by the alias of the table it is read from. -/
structure Column where
  tableAlias : String
  name : String
  deriving DecidableEq, Repr

/-- The column as it is written: the alias as it stands, the name in quotes. -/
def Column.qualified (column : Column) : String :=
  column.tableAlias ++ ".\"" ++ column.name ++ "\""

/-- What a comparator can be **applied to**: a column as it is, or its text. -/
inductive Operand
  | column (source : Column)
  | text (source : Column)
  deriving DecidableEq, Repr

/-- The column that an operand reads. -/
def Operand.source : Operand → Column
  | .column source => source
  | .text source => source

/-- A **pattern with wildcards**. When it is escaped, a backslash takes the special meaning
from the character after it. -/
structure LikePattern where
  pattern : String
  escaped : Bool
  deriving DecidableEq, Repr

/-- Writes a backslash before every character that a pattern treats specially. -/
def escapeWildcards : List Char → List Char
  | [] => []
  | c :: rest =>
      if c = '\\' ∨ c = '%' ∨ c = '_' then '\\' :: c :: escapeWildcards rest
      else c :: escapeWildcards rest

/-- The pattern for texts that contain `value`, whose own wildcards keep their meaning. -/
def LikePattern.containing (value : String) : LikePattern :=
  ⟨"%" ++ value ++ "%", false⟩

/-- The pattern for texts that contain `value` itself, character by character. -/
def LikePattern.containingLiteral (value : String) : LikePattern :=
  ⟨"%" ++ String.ofList (escapeWildcards value.toList) ++ "%", true⟩

/-- A **predicate**: a condition on one row of joined tables. -/
inductive Predicate
  /-- The operand is present and equal to the value. -/
  | eq (operand : Operand) (value : Scalar)
  /-- The operand is absent or different from the value. -/
  | distinctFrom (operand : Operand) (value : Scalar)
  /-- The operand is present and matches the pattern. -/
  | like (operand : Operand) (pattern : LikePattern)
  /-- The operand is absent or does not match the pattern. -/
  | notLikeOrNull (operand : Operand) (pattern : LikePattern)
  /-- Two columns are present and equal. -/
  | columnsEq (left right : Column)
  /-- The operand is one of the values. -/
  | isIn (operand : Operand) (values : List Scalar)
  /-- The operand is present and none of the values; any operand will do if there are none. -/
  | notIn (operand : Operand) (values : List Scalar)
  /-- No row satisfies this. -/
  | never
  deriving DecidableEq, Repr

/-- A **left join**: every row is extended by the matching rows of a table, or by an absent
row when nothing matches. -/
structure LeftJoin where
  table : String
  tableAlias : String
  on : List Predicate
  deriving DecidableEq, Repr

end LogFilter.Sql
