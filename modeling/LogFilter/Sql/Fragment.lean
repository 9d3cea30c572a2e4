import LogFilter.Sql.Basic

/-!
# Query Text in Pieces

The text of a query is first a list of pieces: fixed words, columns read as text, and bound
values. A dialect decides only how a text column and a placeholder are written, so
everything that does not depend on the dialect is a fact about pieces.

## Main definitions

* `Piece`, `Fragment`: text whose placeholders are not numbered yet.
* `Fragment.params`: the bound values in the order of their placeholders.
* `Fragment.text`: the text in a dialect, placeholders numbered from one.
* `Predicate.pieces`, `conjunction`, `LeftJoin.pieces`: how conditions are written.
-/

namespace LogFilter.Sql

/-- A **piece** of query text. -/
inductive Piece
  /-- Words that every dialect writes alike. -/
  | words (text : String)
  /-- A column coerced to text. -/
  | asText (column : Column)
  /-- A placeholder and the value bound to it. -/
  | bind (value : Scalar)
  deriving DecidableEq, Repr

/-- A stretch of query text, as its pieces in reading order. -/
abbrev Fragment := List Piece

namespace Dialect

/-- The placeholder with a given number. -/
def placeholder (dialect : Dialect) (number : Nat) : String :=
  match dialect with
  | .postgres => "$" ++ number.repr
  | .sqlite => "?" ++ number.repr

/-- A column coerced to text. -/
def textCast (dialect : Dialect) (column : Column) : String :=
  match dialect with
  | .postgres => column.qualified ++ "::text"
  | .sqlite => "CAST(" ++ column.qualified ++ " AS TEXT)"

end Dialect

namespace Fragment

/-- The **parameters**: the bound values in the order of their placeholders. -/
def params : Fragment → List Scalar
  | [] => []
  | .bind value :: rest => value :: params rest
  | .words _ :: rest => params rest
  | .asText _ :: rest => params rest

/-- The pieces before the placeholder that comes after `count` others; all of them if none
does. -/
def beforeBind : Nat → Fragment → Fragment
  | _, [] => []
  | 0, .bind _ :: _ => []
  | count + 1, .bind value :: rest => .bind value :: beforeBind count rest
  | count, .words text :: rest => .words text :: beforeBind count rest
  | count, .asText column :: rest => .asText column :: beforeBind count rest

/-- The pieces as written in a dialect, where the first placeholder has the number `next`. -/
def textsFrom (dialect : Dialect) (next : Nat) : Fragment → List String
  | [] => []
  | .words text :: rest => text :: textsFrom dialect next rest
  | .asText column :: rest => dialect.textCast column :: textsFrom dialect next rest
  | .bind _ :: rest => dialect.placeholder next :: textsFrom dialect (next + 1) rest

/-- The **text** in a dialect. -/
def text (dialect : Dialect) (fragment : Fragment) : String :=
  String.join (textsFrom dialect 1 fragment)

end Fragment

/-- Fragments one after the other, with `separator` between each two. -/
def separated (separator : String) : List Fragment → Fragment
  | [] => []
  | [fragment] => fragment
  | fragment :: next :: rest =>
      fragment ++ .words separator :: separated separator (next :: rest)

/-- How an operand is written. -/
def Operand.piece : Operand → Piece
  | .column source => .words source.qualified
  | .text source => .asText source

/-- The placeholder of a pattern, followed by its escape character if it has one. -/
def LikePattern.pieces (pattern : LikePattern) : Fragment :=
  .bind (.text pattern.pattern) ::
    if pattern.escaped then [.words " ESCAPE '\\'"] else []

/-- A list of placeholders in parentheses. -/
def bindList (values : List Scalar) : Fragment :=
  .words "(" :: separated ", " (values.map fun value => [.bind value]) ++ [.words ")"]

/-- How a **predicate** is written. A list without values is written as the constant
condition that it amounts to. -/
def Predicate.pieces : Predicate → Fragment
  | .eq operand value => [operand.piece, .words " = ", .bind value]
  | .distinctFrom operand value => [operand.piece, .words " IS DISTINCT FROM ", .bind value]
  | .like operand pattern => operand.piece :: .words " LIKE " :: pattern.pieces
  | .notLikeOrNull operand pattern =>
      .words "(" :: operand.piece :: .words " NOT LIKE " :: pattern.pieces ++
        [.words " OR ", operand.piece, .words " IS NULL)"]
  | .columnsEq left right => [.words left.qualified, .words " = ", .words right.qualified]
  | .isIn _ [] => [.words "1 = 0"]
  | .isIn operand values => operand.piece :: .words " IN " :: bindList values
  | .notIn _ [] => [.words "1 = 1"]
  | .notIn operand values => operand.piece :: .words " NOT IN " :: bindList values
  | .never => [.words "1 = 0"]

/-- All of the predicates; without any, the condition that every row meets. -/
def conjunction : List Predicate → Fragment
  | [] => [.words "1 = 1"]
  | predicates => separated " AND " (predicates.map Predicate.pieces)

/-- How a **left join** is written. -/
def LeftJoin.pieces (join : LeftJoin) : Fragment :=
  .words (" LEFT JOIN \"" ++ join.table ++ "\" AS " ++ join.tableAlias ++ " ON ") ::
    conjunction join.on

end LogFilter.Sql
