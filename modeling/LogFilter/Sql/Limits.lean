import LogFilter.Error
import LogFilter.Sql.Query

/-!
# Limits on Queries

A query is refused before any row is looked at if it has too many placeholders, if its
condition nests too deeply or if it joins too many tables. A condition nests as deeply as its
text makes it: conjunctions are grouped from the left, and the condition of each join is added
to the others. The text is read from the left, up to the first table too many to be read or the
first condition that makes the conjunction too deep, so placeholders after it are not counted.

## Main definitions

* `Predicate.depth`, `conjunctionDepth`, `Query.depth`: how deeply conditions nest.
* `Query.readPieces`: the text up to where its condition is too deep.
* `Query.check`: refuses a query that is beyond the limits.
-/

namespace LogFilter.Sql

/-- How deeply an operand nests: a qualified column has two levels, its text one more. -/
def Operand.depth : Operand → Nat
  | .column _ => 2
  | .text _ => 3

/-- How deeply a predicate nests. -/
def Predicate.depth : Predicate → Nat
  | .eq operand _ | .distinctFrom operand _ | .like operand _ => operand.depth + 1
  | .notLikeOrNull operand _ => operand.depth + 3
  | .columnsEq _ _ => 3
  | .isIn _ [] | .notIn _ [] | .never => 2
  | .isIn operand _ => operand.depth + 1
  | .notIn operand _ => operand.depth + 2

/-- How deeply a conjunction nests that is grouped from the left. -/
def conjunctionDepth : List Predicate → Nat
  | [] => 2
  | first :: rest => rest.foldl (fun depth p => max depth p.depth + 1) first.depth

/-- How deeply the **whole condition of a query** nests. -/
def Query.depth (query : Query) : Nat :=
  query.joins.foldl (fun depth join => max depth (conjunctionDepth join.on) + 1)
    (conjunctionDepth query.predicates)

/-- The greatest depth of a condition. -/
def maxDepth : Nat := 1000

/-- The greatest number of joined tables, the base table included. -/
def maxTables : Nat := 64

/-- The greatest number of tables that are read before it is asked whether they can be joined,
the base table included. -/
def maxTerms : Nat := 200

/-- The greatest number of placeholders. -/
def maxParams : Nat := 32766

/-- The predicates after others that nest to a depth, up to the first one with which their
conjunction is too deep. -/
def readAfter (depth : Nat) : List Predicate → List Predicate
  | [] => []
  | predicate :: rest =>
      let whole := max depth predicate.depth + 1
      predicate :: if maxDepth < whole then [] else readAfter whole rest

/-- The predicates of a conjunction up to the first one with which it is too deep. -/
def readPredicates : List Predicate → List Predicate
  | [] => []
  | first :: rest => first :: readAfter first.depth rest

/-- The text of a query from its joins on, **as far as it is read** before its condition is too
deep. -/
def Query.readPieces (query : Query) (projection : Projection) : Fragment :=
  if maxDepth < conjunctionDepth query.predicates then
    query.joins.flatMap LeftJoin.pieces ++ conjunction (readPredicates query.predicates)
  else query.body ++ query.tail projection

/-- **Refuses** a query that has too many placeholders, whose condition is too deep or that
joins too many tables. -/
def Query.check (query : Query) (projection : Projection) : Except Error Unit :=
  if maxTerms < query.joins.length + 1 then .error .tooManyTerms
  else if maxParams < (query.readPieces projection).params.length then
    let pieces := query.pieces projection
    .error (.tooManyParams (pieces.text .sqlite)
      ((pieces.beforeBind maxParams).text .sqlite).utf8ByteSize)
  else if maxDepth < query.depth then .error .expressionTooDeep
  else if maxTables < query.joins.length + 1 then .error .tooManyTables
  else .ok ()

end LogFilter.Sql
