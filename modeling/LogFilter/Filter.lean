import LogFilter.Error
import LogFilter.Sql.Basic

/-!
# Filters

A filter names a field, a comparator and a value. The comparator is kept as the caller wrote
it, so that a filter without a value is never asked whether its comparator exists.

## Main definitions

* `Comparator`: the four ways a stored value can relate to a filter's value.
* `Filter`: one filter as a caller supplies it.
* `Comparator.predicate`: the condition that a comparator puts on an operand.
-/

namespace LogFilter

/-- A **comparator**: how a stored value relates to the value of a filter. -/
inductive Comparator
  | equals
  | notEquals
  | contains
  | notContains
  deriving DecidableEq, Repr

namespace Comparator

/-- Every comparator. -/
def all : List Comparator := [equals, notEquals, contains, notContains]

/-- The **token** that stands for a comparator. -/
def token : Comparator → String
  | equals => "="
  | notEquals => "!="
  | contains => "CONTAINS"
  | notContains => "NOT_CONTAINS"

/-- The comparator that a token stands for, letter for letter. -/
def ofToken (token : String) : Except Error Comparator :=
  match all.find? fun comparator => comparator.token == token with
  | some comparator => .ok comparator
  | none => .error (.unknownComparator token)

end Comparator

/-- A **filter** as a caller supplies it. -/
structure Filter where
  field : String
  comparator : String
  value : Option String
  deriving DecidableEq, Repr

namespace Filter

/-- The value, unless it is absent or empty. -/
def specified? (filter : Filter) : Option String :=
  filter.value.filter fun value => !value.isEmpty

/-- A filter with a known comparator and a value. -/
def make (field : String) (comparator : Comparator) (value : String) : Filter :=
  ⟨field, comparator.token, some value⟩

end Filter

/-- What the characters `%` and `_` mean in the value of a substring search. -/
inductive Wildcards
  /-- They stand for any run of characters and for any one character. -/
  | active
  /-- They stand for themselves. -/
  | literal
  deriving DecidableEq, Repr

open Sql

/-- The pattern of a substring search. -/
def Wildcards.containing (wildcards : Wildcards) (value : String) : LikePattern :=
  match wildcards with
  | .active => .containing value
  | .literal => .containingLiteral value

/-- The **condition** that a comparator with a value puts on an operand. An absent operand
satisfies the two negative comparators and neither of the positive ones. -/
def Comparator.predicate (comparator : Comparator) (wildcards : Wildcards) (value : String)
    (operand : Operand) : Predicate :=
  match comparator with
  | .equals => .eq operand (.text value)
  | .notEquals => .distinctFrom operand (.text value)
  | .contains => .like operand (wildcards.containing value)
  | .notContains => .notLikeOrNull operand (wildcards.containing value)

end LogFilter
