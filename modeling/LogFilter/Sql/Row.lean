import LogFilter.Error
import LogFilter.Sql.Like

/-!
# Rows and the Truth of Predicates

A row of joined tables gives each column a cell, and a predicate is true, false or unknown
of it: a comparison with an absent value is unknown, and so is its opposite.

## Main definitions

* `Cell`, `Row`, `JoinedRow`: stored values, rows of one table and of joined tables.
* `Predicate.truth`: what a predicate is of a row.
* `Meets`: whether all of some predicates are true of a row.
* `Predicate.isTooLong`: whether a predicate searches for a pattern that is too long.
-/

namespace LogFilter.Sql

/-- A **stored value**. -/
inductive Cell
  | null
  | text (content : String)
  | integer (value : Int)
  deriving DecidableEq, Repr

namespace Cell

/-- The type of a value. -/
def kind : Cell → CellKind
  | null => .null
  | text _ => .text
  | integer _ => .integer

/-- A text that may be absent. -/
def ofText? (content : Option String) : Cell :=
  (content.map text).getD null

/-- The value coerced to text: an integer becomes its decimal digits. -/
def asText : Cell → Cell
  | integer value => text (toString value)
  | cell => cell

/-- Whether two values are equal; unknown if one of them is absent. -/
def equal : Cell → Cell → Option Bool
  | null, _ => none
  | _, null => none
  | a, b => some (decide (a = b))

/-- Whether a value matches a pattern; unknown if it is absent. -/
def like (cell : Cell) (pattern : LikePattern) : Option Bool :=
  match cell.asText with
  | text content => some (pattern.matches content)
  | _ => none

/-- The order of values: absent ones first, then integers, then texts. -/
def le : Cell → Cell → Bool
  | null, _ => true
  | _, null => false
  | integer a, integer b => decide (a ≤ b)
  | integer _, text _ => true
  | text _, integer _ => false
  | text a, text b => decide (a ≤ b)

end Cell

/-- The stored value that a bound value is compared as: a boolean is one or zero. -/
def Scalar.cell : Scalar → Cell
  | .text content => .text content
  | .integer value => .integer value
  | .boolean flag => .integer (if flag then 1 else 0)

/-- A **row of a table**: its cell for each column name. -/
abbrev Row := String → Cell

/-- The row that a left join supplies where nothing matches. -/
def Row.absent : Row := fun _ => .null

/-- A **row of joined tables**: a row for each alias. -/
abbrev JoinedRow := List (String × Row)

/-- The cell of a column. -/
def JoinedRow.cell (row : JoinedRow) (column : Column) : Cell :=
  match row.lookup column.tableAlias with
  | some cells => cells column.name
  | none => .null

/-- The value of an operand. -/
def Operand.cell (row : JoinedRow) : Operand → Cell
  | .column source => row.cell source
  | .text source => (row.cell source).asText

/-- Whether a value is one of several; unknown if it is absent, unless there are none. -/
def Cell.isAmong (cell : Cell) (values : List Scalar) : Option Bool :=
  if values.isEmpty then some false
  else if cell = .null then none
  else some (values.any fun value => decide (cell = value.cell))

/-- What a **predicate** is of a row: true, false or unknown. -/
def Predicate.truth (row : JoinedRow) : Predicate → Option Bool
  | .eq operand value => (operand.cell row).equal value.cell
  | .distinctFrom operand value => some (decide (operand.cell row ≠ value.cell))
  | .like operand pattern => (operand.cell row).like pattern
  | .notLikeOrNull operand pattern =>
      match (operand.cell row).like pattern with
      | some matched => some (!matched)
      | none => some true
  | .columnsEq left right => (row.cell left).equal (row.cell right)
  | .isIn operand values => (operand.cell row).isAmong values
  | .notIn operand values => ((operand.cell row).isAmong values).map not
  | .never => some false

/-- The longest pattern that is matched against values, in bytes. -/
def maxPatternBytes : Nat := 50000

/-- Whether a predicate searches for a pattern that is too long to be matched. -/
def Predicate.isTooLong : Predicate → Bool
  | .like _ pattern | .notLikeOrNull _ pattern => maxPatternBytes < pattern.pattern.utf8ByteSize
  | _ => false

/-- A row **meets** predicates if all of them are true of it. -/
def Meets (row : JoinedRow) (predicates : List Predicate) : Prop :=
  ∀ predicate ∈ predicates, predicate.truth row = some true

instance (row : JoinedRow) (predicates : List Predicate) : Decidable (Meets row predicates) :=
  inferInstanceAs (Decidable (∀ predicate ∈ predicates, predicate.truth row = some true))

end LogFilter.Sql
