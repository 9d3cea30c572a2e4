import LogFilter.Sql.Limits
import LogFilter.Sql.Row

/-!
# Executing Statements

A query is executed on tables of rows: every row of the base table is extended by its joins
one after the other, and the rows that meet the conditions are the result. A projection
orders the result and cuts a page out of it, or counts it.

What the result is does not depend on the order in which the conditions are looked at, but
whether there is one does: a pattern that is too long fails as soon as it is looked at. The order
is up to the engine of the database, which plans every execution by itself. So an engine is a
parameter here (`Engine`), and all that is known of it is what every order has in common.

## Main definitions

* `Tables`: the rows of each table.
* `Query.rows`: the joined rows that match a query.
* `Engine`: what an engine decides of its own.
* `Statement.execute`: the one-column result of a statement.
* `ResultSet.texts`, `ResultSet.count`: a result read as ids and as a number.
-/

namespace LogFilter.Sql

/-- The **rows of each table**, by the table's name. -/
abbrev Tables := String → List Row

/-- The rows that a **left join** makes of one row: one for each match, or one without. -/
def LeftJoin.extend (tables : Tables) (join : LeftJoin) (row : JoinedRow) : List JoinedRow :=
  let candidates := (tables join.table).map fun cells => (join.tableAlias, cells) :: row
  let matched := candidates.filter fun candidate => decide (Meets candidate join.on)
  if matched.isEmpty then [(join.tableAlias, Row.absent) :: row] else matched

/-- The rows that joins make of a list of rows, one join after the other. -/
def joinAll (tables : Tables) : List LeftJoin → List JoinedRow → List JoinedRow
  | [], rows => rows
  | join :: joins, rows => joinAll tables joins (rows.flatMap (join.extend tables))

/-- What joins make of rows depends only on their own tables. -/
theorem joinAll_congr {tables other : Tables} {joins : List LeftJoin} {rows : List JoinedRow}
    (h : ∀ join ∈ joins, tables join.table = other join.table) :
    joinAll tables joins rows = joinAll other joins rows := by
  induction joins generalizing rows with
  | nil => rfl
  | cons join rest ih =>
    have hextend : join.extend tables = join.extend other := by
      funext row
      rw [LeftJoin.extend, LeftJoin.extend, h join List.mem_cons_self]
    rw [joinAll, joinAll, hextend, ih fun later hmem => h later (List.mem_cons_of_mem _ hmem)]

namespace Query

/-- The tables that a query names. -/
def tableNames (query : Query) : List String :=
  query.table :: query.joins.map LeftJoin.table

/-- All conditions of a query, those of its joins included. -/
def conditions (query : Query) : List Predicate :=
  query.joins.flatMap LeftJoin.on ++ query.predicates

/-- The rows of a query before its conditions are looked at, in the order of the base table. -/
def joined (tables : Tables) (query : Query) : List JoinedRow :=
  joinAll tables query.joins ((tables query.table).map fun cells => [(query.tableAlias, cells)])

/-- The joined rows depend only on the tables that a query names. -/
theorem joined_congr {tables other : Tables} {query : Query}
    (h : ∀ name ∈ query.tableNames, tables name = other name) :
    query.joined tables = query.joined other := by
  rw [joined, joined, h query.table List.mem_cons_self]
  exact joinAll_congr fun join hmem =>
    h join.table (List.mem_cons_of_mem _ (List.mem_map_of_mem hmem))

/-- The **rows that match** a query, in the order of the base table. -/
def rows (tables : Tables) (query : Query) : List JoinedRow :=
  (query.joined tables).filter fun row => decide (Meets row query.predicates)

/-- Whether a row comes before another: newer rows first, rows of one instant by id. -/
def precedes (query : Query) (a b : JoinedRow) : Bool :=
  let newer := a.cell query.orderBy
  let older := b.cell query.orderBy
  if newer = older then (a.cell query.id).le (b.cell query.id) else older.le newer

/-- Rows in the order of a query. -/
def sort (query : Query) (rows : List JoinedRow) : List JoinedRow :=
  rows.mergeSort query.precedes

/-- The ids of the rows that match a query, in its order. -/
def idCells (tables : Tables) (query : Query) : List Cell :=
  (query.sort (query.rows tables)).map fun row => row.cell query.id

end Query

/-- Whether a projection asks for an empty page, for which no row is looked at. -/
def Projection.isEmpty : Projection → Bool
  | .page limit _ => limit == 0
  | .ids | .count => false

/-- An **engine** decides for each execution of a query in which order it looks at the conditions,
and for which rows. Of this only one thing can be seen: whether it looks at a pattern that is too
long. -/
structure Engine where
  /-- Whether the execution of a query **fails** at a pattern that is too long. -/
  fails : Tables → Query → Projection → Bool
  /-- There is a condition with such a pattern then. -/
  exists_of_fails {tables : Tables} {query : Query} {projection : Projection} :
    fails tables query projection = true →
      ∃ predicate ∈ query.conditions, predicate.isTooLong = true
  /-- A row is known to match only when all conditions have been looked at. -/
  fails_of_row {tables : Tables} {query : Query} {projection : Projection} {row : JoinedRow}
    {predicate : Predicate} :
    row ∈ query.rows tables → predicate ∈ query.predicates → predicate.isTooLong = true →
      fails tables query projection = true
  /-- No table is read that the query does not name. -/
  fails_congr {tables other : Tables} {query : Query} {projection : Projection} :
    (∀ name ∈ query.tableNames, tables name = other name) →
      fails tables query projection = fails other query projection

/-- A **result**: the name of its only column, and the cells. -/
structure ResultSet where
  column : String
  cells : List Cell
  deriving DecidableEq, Repr

namespace Query

variable (engine : Engine) (tables : Tables) (query : Query) (projection : Projection)

/-- **Looks for the rows** of a query. This fails at a pattern that is too long. -/
def scan : Except Error Unit :=
  if !projection.isEmpty && engine.fails tables query projection.clamped then
    .error .patternTooLong
  else .ok ()

/-- What a projection makes of the rows of a query. -/
def result : ResultSet :=
  match projection.clamped with
  | .ids => ⟨query.id.name, query.idCells tables⟩
  | .page limit offset => ⟨query.id.name, ((query.idCells tables).drop offset).take limit⟩
  | .count => ⟨"COUNT(*)", [.integer (query.rows tables).length]⟩

/-- The **result of a query** under a projection. -/
def execute : Except Error ResultSet := do
  query.check projection
  query.scan engine tables projection
  return query.result tables projection

/-- The result of a query depends only on the tables that it names. -/
theorem execute_congr {engine : Engine} {tables other : Tables} {query : Query}
    {projection : Projection} (h : ∀ name ∈ query.tableNames, tables name = other name) :
    query.execute engine tables projection = query.execute engine other projection := by
  have hrows : query.rows tables = query.rows other := by rw [rows, rows, joined_congr h]
  have hscan : query.scan engine tables projection = query.scan engine other projection := by
    rw [scan, scan, engine.fails_congr h]
  have hresult : query.result tables projection = query.result other projection := by
    simp only [result, idCells, hrows]
  rw [execute, execute, hscan, hresult]

end Query

/-- The **result of a statement**. Only statements in the dialect of the tables are run. -/
def Statement.execute (engine : Engine) (tables : Tables) : Statement → Except Error ResultSet
  | .select _ .postgres _ => .error .foreignDialect
  | .select query .sqlite projection => query.execute engine tables projection
  | .value content => .ok ⟨"v", [content.cell]⟩

namespace ResultSet

/-- A result read as **texts**. -/
def texts (result : ResultSet) : Except Error (List String) :=
  result.cells.mapM fun cell => match cell with
    | .text content => .ok content
    | other => .error (.wrongCell other.kind result.column)

/-- A result read as a **number**: its first cell. -/
def count (result : ResultSet) : Except Error Nat :=
  match result.cells with
  | [] => .error .noRows
  | .integer value :: _ => if value < 0 then .error .countOutOfRange else .ok value.toNat
  | other :: _ => .error (.wrongCell other.kind result.column)

end ResultSet

end LogFilter.Sql
