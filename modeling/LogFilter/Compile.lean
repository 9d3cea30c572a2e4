import LogFilter.Filter
import LogFilter.Selection
import LogFilter.Sql.Query
import LogFilter.TagJoin

/-!
# Compiling Filters

A list of filters becomes one query. Filters are taken in order and the first one that is
wrong decides the error; a filter without a value is passed over before anything about it
is looked at. What each filter adds depends only on the filter and its position.

## Main definitions

* `UnknownFields`, `Options`: what a compilation may be asked to do differently.
* `Subject.clause?`: what one filter adds, or why it is refused.
* `Subject.compile`: the query of a filter list, a scope and a selection.
-/

namespace LogFilter

open Sql

/-- What becomes of a field that is **no known field**. -/
inductive UnknownFields
  /-- It is the name of a tag, whether or not any record has that tag. -/
  | tag
  /-- It is refused, unless it is the name of a known tag. -/
  | reject
  deriving DecidableEq, Repr

/-- The name of a policy in requests and settings. -/
def UnknownFields.name : UnknownFields → String
  | .tag => "tag"
  | .reject => "reject"

/-- The **options** of a compilation. -/
structure Options where
  unknownFields : UnknownFields := .tag
  /-- The tag names that are accepted when unknown fields are refused. -/
  knownTags : NameSet := .empty
  /-- Whether wildcards in the value of a substring search stand for themselves. -/
  escapeLikeWildcards : Bool := false
  /-- The status that records must have under a selection. -/
  successStatus : Int := 200
  deriving DecidableEq

/-- What wildcards in a value mean. -/
def Options.wildcards (options : Options) : Wildcards :=
  if options.escapeLikeWildcards then .literal else .active

namespace Subject

/-- Whether a name that is no known field is accepted. Where there are no tags, a policy that
refuses unknown fields refuses every name. -/
def accepts (subject : Subject) (options : Options) (name : String) : Bool :=
  match options.unknownFields with
  | .tag => true
  | .reject => subject.tags.isSome && options.knownTags.contains name

/-- What the filter at a position adds to a query: nothing if it has no value, or if it names
a tag where there are none; otherwise its condition, on a column or on a joined tag. -/
def clause? (subject : Subject) (options : Options) (position : Nat) (filter : Filter) :
    Except Error (Option Clause) :=
  match filter.specified? with
  | none => .ok none
  | some value => do
      let comparator ← Comparator.ofToken filter.comparator
      let condition := comparator.predicate options.wildcards value
      match subject.field? filter.field with
      | some field => .ok (some ⟨none, condition field.operand⟩)
      | none =>
          if subject.accepts options filter.field then
            .ok (subject.tags.map fun tags =>
              tags.plan subject.id position filter.field condition)
          else .error (.unknownField filter.field)

/-- What a list of filters adds, the first of them at a given position. -/
def clausesFrom (subject : Subject) (options : Options) :
    Nat → List Filter → Except Error (List Clause)
  | _, [] => .ok []
  | position, filter :: rest => do
      let clause ← subject.clause? options position filter
      let clauses ← clausesFrom subject options (position + 1) rest
      return clause.toList ++ clauses

/-- The query made of clauses and a selection: the conditions of the scope come first, then
those of the filters, then those of the selection. -/
def assemble (subject : Subject) (options : Options) (scopeId : String)
    (selection : Option Selection) (clauses : List Clause) : Query :=
  let tagJoins := clauses.filterMap Clause.join
  { table := subject.table
    tableAlias := subject.tableAlias
    id := subject.id
    orderBy := subject.orderBy
    joins := subject.joins ++ tagJoins
    predicates := subject.scope scopeId ++ clauses.map Clause.predicate ++
      (match selection with
        | none => []
        | some selection =>
            selection.predicates subject.id subject.status options.successStatus)
    tagJoins := tagJoins.length }

/-- **Compiles** filters over a subject, held to a scope and narrowed by a selection. -/
def compile (subject : Subject) (options : Options) (scopeId : String)
    (filters : List Filter) (selection : Option Selection) : Except Error Query := do
  let clauses ← subject.clausesFrom options 0 filters
  return subject.assemble options scopeId selection clauses

end Subject

end LogFilter
