import LogFilter.Names
import LogFilter.Sql.Basic

/-!
# Selections

A selection picks records by id, on top of the filters: either everything except some ids,
or nothing except some ids. It holds both sets, and its default decides which one governs.

## Main definitions

* `Selection`: the default and the two sets of ids.
* `Selection.predicates`: the conditions that a selection adds to a query.
-/

namespace LogFilter

/-- A **selection** of records by id. -/
structure Selection where
  /-- Whether a record in neither set is selected. -/
  defaultToSelected : Bool
  selectedIds : NameSet
  deselectedIds : NameSet
  deriving DecidableEq

namespace Selection

/-- Every record except those with the given ids. -/
def allExcept (ids : List String) : Selection :=
  ⟨true, .empty, .ofList ids⟩

/-- No record except those with the given ids. -/
def only (ids : List String) : Selection :=
  ⟨false, .ofList ids, .empty⟩

open Sql

/-- The members of a set as bound values, in order. -/
def boundIds (ids : NameSet) : List Scalar :=
  ids.toList.map .text

/-- The condition on the id: outside the deselected ids, or among the selected ones, where
selecting from no ids leaves nothing. -/
def idPredicates (selection : Selection) (id : Column) : List Predicate :=
  if selection.defaultToSelected then
    if selection.deselectedIds.isEmpty then []
    else [.notIn (.column id) (boundIds selection.deselectedIds)]
  else if selection.selectedIds.isEmpty then [.never]
  else [.isIn (.column id) (boundIds selection.selectedIds)]

/-- The **conditions of a selection**. Where records have a status, only those with the
success status are left. -/
def predicates (selection : Selection) (id : Column) (status : Option Column)
    (successStatus : Int) : List Predicate :=
  selection.idPredicates id ++
    status.toList.map fun column => .eq (.column column) (.integer successStatus)

end Selection

end LogFilter
