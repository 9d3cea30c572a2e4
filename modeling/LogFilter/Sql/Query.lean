import LogFilter.Sql.Fragment

/-!
# Queries and Statements

A query is a base table, its joins and its conditions. It says which rows match; a
projection says what is wanted of them. A statement is what a store is asked to run.

## Main definitions

* `Query`: the rows that match.
* `Projection`: their ids, one page of the ids, or their number.
* `Query.pieces`: the text of a query under a projection.
* `Statement`: a query with its projection and dialect, or one constant value.
-/

namespace LogFilter.Sql

/-- A **query**: the rows of joined tables that meet all conditions. -/
structure Query where
  table : String
  tableAlias : String
  id : Column
  orderBy : Column
  joins : List LeftJoin
  predicates : List Predicate
  /-- How many of the joins were planned for a tag filter. -/
  tagJoins : Nat
  deriving DecidableEq, Repr

/-- What is **wanted** of the matching rows. -/
inductive Projection
  /-- Every id, newest first. -/
  | ids
  /-- The ids of one page, newest first. -/
  | page (limit offset : Nat)
  /-- How many there are. -/
  | count
  deriving DecidableEq, Repr

/-- The largest number that can be bound to a placeholder. -/
def maxBound : Nat := 9223372036854775807

/-- A page size or offset as it is bound: the largest bindable number stands for all beyond. -/
def boundNumber (n : Nat) : Scalar := .integer (min n maxBound : Nat)

/-- A projection **as it is bound**: no bound of a page is beyond the largest number. -/
def Projection.clamped : Projection → Projection
  | .page limit offset => .page (min limit maxBound) (min offset maxBound)
  | projection => projection

namespace Query

/-- The words up to the first join. -/
def head (query : Query) (projection : Projection) : String :=
  let selected := match projection with
    | .count => "COUNT(*)"
    | .ids | .page _ _ => query.id.qualified
  "SELECT " ++ selected ++ " FROM \"" ++ query.table ++ "\" AS " ++ query.tableAlias

/-- The order of the rows: newest first, rows of one instant by id. -/
def ordering (query : Query) : String :=
  " ORDER BY " ++ query.orderBy.qualified ++ " DESC, " ++ query.id.qualified

/-- What follows the conditions. -/
def tail (query : Query) : Projection → Fragment
  | .count => []
  | .ids => [.words query.ordering]
  | .page limit offset =>
      [.words query.ordering, .words " LIMIT ", .bind (boundNumber limit),
        .words " OFFSET ", .bind (boundNumber offset)]

/-- The joins and conditions, which do not depend on the projection. -/
def body (query : Query) : Fragment :=
  query.joins.flatMap LeftJoin.pieces ++ .words " WHERE " :: conjunction query.predicates

/-- The **text of a query** under a projection. -/
def pieces (query : Query) (projection : Projection) : Fragment :=
  .words (query.head projection) :: query.body ++ query.tail projection

end Query

/-- A **statement**: what a store is asked to run. -/
inductive Statement
  /-- A query, written in a dialect. -/
  | select (query : Query) (dialect : Dialect) (projection : Projection)
  /-- A single row that holds the bound value, under the column name `v`. -/
  | value (content : Scalar)
  deriving DecidableEq, Repr

namespace Statement

/-- The dialect a statement is written in. -/
def dialect : Statement → Dialect
  | select _ dialect _ => dialect
  | value _ => .sqlite

/-- The text of a statement, in pieces. -/
def pieces : Statement → Fragment
  | select query _ projection => query.pieces projection
  | value content => [.words "SELECT ", .bind content, .words " AS v"]

/-- The **text** of a statement. -/
def sql (statement : Statement) : String :=
  statement.pieces.text statement.dialect

/-- The **parameters** of a statement, in the order of their placeholders. -/
def params (statement : Statement) : List Scalar :=
  statement.pieces.params

/-- How many joins of a statement were planned for a tag filter. -/
def tagJoins : Statement → Nat
  | select query _ _ => query.tagJoins
  | value _ => 0

end Statement

end LogFilter.Sql
