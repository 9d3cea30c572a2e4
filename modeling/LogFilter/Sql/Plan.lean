import LogFilter.Sql.Execute

/-!
# Planned Execution

One engine that can be run: it looks at the conditions of a query in the order of a *plan*, row by
row up to the first condition that is not true. First comes what needs no row, then which ids are
looked for, and then what is about one table after another: the base table and the joins, unless
the first join leads. A join can lead if a row of it is needed; it does if that is cheaper.

Costs are estimated as SQLite does it, on a logarithmic scale on which ten stands for a factor of
two. Counting needs no order, so that it can be planned in another way than the ids themselves.

This is an engine like any other. What holds of compiled queries is shown for all of them, and the
plan is only needed where an example tells an order.

## Main definitions

* `Query.leads`: whether the first join leads.
* `Query.inTurn`: the conditions of a query in the order in which they are looked at.
* `Engine.planned`: the engine that looks at them in this order.
-/

namespace LogFilter.Sql

/-! ### Estimates -/

/-- A number **on the logarithmic scale**. -/
def logEstimate (n : Nat) : Nat :=
  10 * n.log2 + [0, 2, 3, 5, 6, 7, 8, 9].getD (((n * 8) >>> n.log2) % 8) 0

/-- The **sum** of two numbers on the logarithmic scale. -/
def logSum (a b : Nat) : Nat :=
  let apart := max a b - min a b
  let more :=
    [10, 10, 9, 9, 8, 8, 7, 7, 7, 6, 6, 6, 5, 5, 5, 4, 4, 4, 4, 3, 3, 3, 3, 3, 3, 2, 2, 2, 2, 2,
      2, 2].getD apart (if apart ≤ 49 then 1 else 0)
  max a b + more

/-- What it costs to look up some ids in a table, and the rows that a number of conditions leave
of them. -/
def lookupCost (ids conditions : Nat) : Nat :=
  let each := 46 + logEstimate ids
  logSum each (each - conditions)

/-- What it costs to sort some rows, both on the logarithmic scale. -/
def sortCost (rows : Nat) : Nat :=
  rows + 10 + if rows ≤ 10 then 0 else logEstimate rows - 33

/-- What it costs to look up some ids in one table first, about which there are some conditions,
and in another one then. -/
def leadCost (projection : Projection) (ids conditions others : Nat) : Nat :=
  -- A single id is an equation, which counts as a condition of either table.
  let single := if ids = 1 then 1 else 0
  let lookup := lookupCost ids (conditions + single)
  match projection with
  | .count => lookup
  | .ids | .page _ _ => logSum lookup (sortCost (logEstimate ids - conditions - others + 1))

/-! ### The order of conditions -/

/-- The alias that a predicate is about; none if no row is needed to decide it. -/
def Predicate.tableAlias? : Predicate → Option String
  | .eq operand _ | .distinctFrom operand _ | .like operand _ | .notLikeOrNull operand _
  | .isIn operand _ | .notIn operand _ => some operand.source.tableAlias
  | .columnsEq _ right => some right.tableAlias
  | .never => none

/-- The ids that a predicate looks for, if it does. -/
def Predicate.ids? (id : Column) : Predicate → Option (List Scalar)
  | .isIn operand ids => if operand = .column id then some ids else none
  | _ => none

namespace Query

/-- Whether a query compares a column of a table with a value, so that a row of the table is
needed. -/
def requires (query : Query) (name : String) : Bool :=
  query.predicates.any fun predicate => match predicate with
    | .eq (.column source) _ => source.tableAlias == name
    | _ => false

/-- How many conditions of a query are about a table, other than the one that looks for ids. -/
def weight (query : Query) (name : String) : Nat :=
  query.predicates.countP fun predicate =>
    predicate.tableAlias? = some name && (predicate.ids? query.id).isNone

/-- Whether a joined table of which a row is needed **leads**: with ids to look for its rows are
looked at before those of the base table if that costs no more, and otherwise if it has fewer
conditions. -/
def leads (query : Query) (projection : Projection) (name : String) : Bool :=
  query.requires name &&
    match query.predicates.findSome? (Predicate.ids? query.id) with
    | some ids =>
        let own := query.weight name
        let base := query.weight query.tableAlias
        decide (leadCost projection ids.length own base ≤ leadCost projection ids.length base own)
    | none => decide (query.weight name < query.weight query.tableAlias)

/-- The aliases of a query in the order in which their rows are looked at: the base table and
then the joins, unless the first join leads. -/
def aliasesInTurn (query : Query) (projection : Projection) : List String :=
  match query.joins.map (·.tableAlias) with
  | [] => [query.tableAlias]
  | name :: rest =>
      if query.leads projection name then name :: query.tableAlias :: rest
      else query.tableAlias :: name :: rest

/-- The place of a predicate among those of a query: first what needs no row, then which ids
are looked for, then what is about each table. -/
def turn (query : Query) (projection : Projection) (predicate : Predicate) : Nat :=
  match predicate.tableAlias? with
  | none => 0
  | some name =>
      if (predicate.ids? query.id).isSome then 1
      else (query.aliasesInTurn projection).idxOf name + 2

/-- The conditions of a query **in the order in which they are looked at**. -/
def inTurn (query : Query) (projection : Projection) : List Predicate :=
  query.predicates.mergeSort fun a b =>
    decide (query.turn projection a ≤ query.turn projection b)

/-- The conditions are looked at in some order. -/
theorem inTurn_perm (query : Query) (projection : Projection) :
    (query.inTurn projection).Perm query.predicates :=
  List.mergeSort_perm _ _

end Query

/-! ### Looking at the conditions of a row -/

/-- Whether a row **fails** at a pattern that is too long: whether there is one before the first
condition that is not true. -/
def failsInTurn (row : JoinedRow) : List Predicate → Bool
  | [] => false
  | predicate :: rest =>
      predicate.isTooLong || (decide (predicate.truth row = some true) && failsInTurn row rest)

/-- A row fails only where there is a pattern that is too long. -/
theorem exists_of_failsInTurn {row : JoinedRow} {predicates : List Predicate}
    (h : failsInTurn row predicates = true) :
    ∃ predicate ∈ predicates, predicate.isTooLong = true := by
  induction predicates with
  | nil => cases h
  | cons predicate rest ih =>
    rcases Bool.or_eq_true .. ▸ h with hfirst | hlater
    · exact ⟨predicate, List.mem_cons_self, hfirst⟩
    · obtain ⟨other, hmem, hother⟩ := ih (Bool.and_eq_true_iff.mp hlater).2
      exact ⟨other, List.mem_cons_of_mem _ hmem, hother⟩

/-- **A row fails at a pattern that is too long** if every condition before it is true of the row,
or fails itself. -/
theorem failsInTurn_of_before {row : JoinedRow} {before after : List Predicate}
    {predicate : Predicate} (hlong : predicate.isTooLong = true)
    (hbefore : ∀ other ∈ before, other.isTooLong = true ∨ other.truth row = some true) :
    failsInTurn row (before ++ predicate :: after) = true := by
  induction before with
  | nil => rw [List.nil_append, failsInTurn, hlong, Bool.true_or]
  | cons other rest ih =>
    have hrest := ih fun later hmem => hbefore later (List.mem_cons_of_mem _ hmem)
    rw [List.cons_append, failsInTurn, hrest]
    rcases hbefore other List.mem_cons_self with hfirst | htrue
    · rw [hfirst, Bool.true_or]
    · rw [decide_eq_true htrue, Bool.true_and, Bool.or_true]

/-- The engine that looks at conditions **in the order of the plan**. -/
def Engine.planned : Engine where
  fails tables query projection :=
    (query.joined tables).any fun row => failsInTurn row (query.inTurn projection)
  exists_of_fails {tables query projection} h := by
    obtain ⟨row, -, hrow⟩ := List.any_eq_true.mp h
    obtain ⟨predicate, hmem, hlong⟩ := exists_of_failsInTurn hrow
    exact ⟨predicate,
      List.mem_append_right _ ((query.inTurn_perm projection).mem_iff.mp hmem), hlong⟩
  fails_of_row {tables query projection row predicate} hrow hmem hlong := by
    obtain ⟨hjoined, hmeets⟩ := List.mem_filter.mp hrow
    have hturn := (query.inTurn_perm projection).mem_iff (a := predicate)
    obtain ⟨before, after, hsplit⟩ := List.append_of_mem (hturn.mpr hmem)
    refine List.any_eq_true.mpr ⟨row, hjoined, ?_⟩
    rw [hsplit]
    refine failsInTurn_of_before hlong fun other hother => .inr ?_
    refine of_decide_eq_true hmeets other ((query.inTurn_perm projection).mem_iff.mp ?_)
    rw [hsplit]
    exact List.mem_append_left _ hother
  fails_congr h := by rw [Query.joined_congr h]

end LogFilter.Sql
