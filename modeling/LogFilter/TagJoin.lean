import LogFilter.Subject

/-!
# One Join for Each Tag Filter

A filter on a tag is planned as a join of the tag table under an alias of its own. Two
filters that name the same tag therefore ask for two rows, and a record without the tag
keeps an absent value, which the negative comparators admit.

## Main definitions

* `Clause`: what one filter adds to a query.
* `TagTable.plan`: the join and the condition of a tag filter.
-/

namespace LogFilter

open Sql

/-- What **one filter adds** to a query: a condition, and a join if it needs one. -/
structure Clause where
  join : Option LeftJoin
  predicate : Predicate
  deriving DecidableEq, Repr

namespace TagTable

/-- The alias of the join for the filter at a position of the filter list. -/
def aliasAt (tags : TagTable) (position : Nat) : String :=
  tags.aliasStem ++ position.repr

/-- The join for the filter at a position: the row of the parent record under the tag's
name. -/
def joinAt (tags : TagTable) (parent : Column) (position : Nat) (name : String) : LeftJoin where
  table := tags.table
  tableAlias := tags.aliasAt position
  on :=
    [.columnsEq parent ⟨tags.aliasAt position, tags.parent⟩,
      .eq (.column ⟨tags.aliasAt position, tags.name⟩) (.text name)]

/-- The **plan of a tag filter**: its join, and `condition` put on the joined value. -/
def plan (tags : TagTable) (parent : Column) (position : Nat) (name : String)
    (condition : Operand → Predicate) : Clause where
  join := some (tags.joinAt parent position name)
  predicate := condition (.column ⟨tags.aliasAt position, tags.value⟩)

end TagTable

end LogFilter
