import LogFilter.Proofs.QueryMeaning

/-!
# The Planned Engine on Compiled Queries

The engine that makes plans looks at the joined row of one record after the other, and at each of
them in the order of the plan. So whether it fails can be told from single records, and of a record
only the conditions matter whose place in the plan is not after that of the pattern. The examples
in which a pattern that is too long makes a difference rest on this.

## Main results

* `Sql.Query.failsInTurn_inTurn`: a row fails if what comes before the pattern is true of it.
* `Sql.Query.not_failsInTurn_inTurn`: it does not if it is left out before any such pattern.
* `Subject.scan_planned_eq_error`, `Subject.scan_planned_eq_ok`: so it is with the look for the rows
  of a compiled query.
* `Subject.fetchIds_planned_eq_error`, `Subject.fetchIds_planned_eq_nil`: and with its ids.
-/

namespace LogFilter

open Sql

namespace Sql

/-- A row is **left out at a condition** that is not true of it, if those before it have no
pattern that is too long. -/
theorem not_failsInTurn_of_before {row : JoinedRow} {before after : List Predicate}
    {predicate : Predicate} (hshort : predicate.isTooLong = false)
    (hfalse : predicate.truth row ≠ some true)
    (hbefore : ∀ other ∈ before, other.isTooLong = false) :
    failsInTurn row (before ++ predicate :: after) = false := by
  induction before with
  | nil =>
    rw [List.nil_append, failsInTurn, hshort, decide_eq_false hfalse, Bool.false_and,
      Bool.or_false]
  | cons other rest ih =>
    have hrest := ih fun later hmem => hbefore later (List.mem_cons_of_mem _ hmem)
    rw [List.cons_append, failsInTurn, hbefore other List.mem_cons_self, hrest, Bool.and_false,
      Bool.or_false]

namespace Query

variable {query : Query} {projection : Projection} {row : JoinedRow} {predicate : Predicate}

/-- With ids to look for, a table leads exactly if that costs no more. -/
theorem leads_of_ids {name : String} {ids : List Scalar} (hrequires : query.requires name = true)
    (hids : query.predicates.findSome? (Predicate.ids? query.id) = some ids) :
    query.leads projection name =
      decide (leadCost projection ids.length (query.weight name) (query.weight query.tableAlias) ≤
        leadCost projection ids.length (query.weight query.tableAlias) (query.weight name)) := by
  rw [leads, hrequires, hids, Bool.true_and]

/-- With a single join, its table comes first if it leads. -/
theorem aliasesInTurn_of_join {name : String}
    (hjoins : query.joins.map LeftJoin.tableAlias = [name]) :
    query.aliasesInTurn projection =
      if query.leads projection name then [name, query.tableAlias]
      else [query.tableAlias, name] := by
  rw [aliasesInTurn, hjoins]

/-- The conditions that are looked at before another one have at most its place. -/
theorem exists_inTurn_eq (projection : Projection) (hmem : predicate ∈ query.predicates) :
    ∃ before after, query.inTurn projection = before ++ predicate :: after ∧
      ∀ other ∈ before, other ∈ query.predicates ∧
        query.turn projection other ≤ query.turn projection predicate := by
  have hperm := query.inTurn_perm projection
  obtain ⟨before, after, hsplit⟩ := List.append_of_mem (hperm.mem_iff.mpr hmem)
  have hsorted : (query.inTurn projection).Pairwise fun a b =>
      decide (query.turn projection a ≤ query.turn projection b) = true :=
    List.pairwise_mergeSort (fun a b c => by simpa using Nat.le_trans)
      (fun a b => by simpa using Nat.le_total _ _) _
  rw [hsplit] at hsorted
  obtain ⟨-, -, hbefore⟩ := List.pairwise_append.mp hsorted
  refine ⟨before, after, hsplit, fun other hother => ⟨?_, ?_⟩⟩
  · rw [← hperm.mem_iff, hsplit]
    exact List.mem_append_left _ hother
  · exact of_decide_eq_true (hbefore other hother predicate List.mem_cons_self)

/-- **A row fails at a pattern that is too long** if the conditions of at most its place are true
of the row, whatever the others are. -/
theorem failsInTurn_inTurn (hmem : predicate ∈ query.predicates)
    (hlong : predicate.isTooLong = true)
    (hothers : ∀ other ∈ query.predicates,
      query.turn projection other ≤ query.turn projection predicate →
        other.isTooLong = true ∨ other.truth row = some true) :
    failsInTurn row (query.inTurn projection) = true := by
  obtain ⟨before, after, hsplit, hbefore⟩ := exists_inTurn_eq projection hmem
  rw [hsplit]
  refine failsInTurn_of_before hlong fun other hother => ?_
  obtain ⟨hstated, hturn⟩ := hbefore other hother
  exact hothers other hstated hturn

/-- **A row is left out at a condition** that is not true of it, if those of at most its place have
no pattern that is too long, whatever the others are. -/
theorem not_failsInTurn_inTurn (hmem : predicate ∈ query.predicates)
    (hfalse : predicate.truth row ≠ some true)
    (hothers : ∀ other ∈ query.predicates,
      query.turn projection other ≤ query.turn projection predicate → other.isTooLong = false) :
    failsInTurn row (query.inTurn projection) = false := by
  obtain ⟨before, after, hsplit, hbefore⟩ := exists_inTurn_eq projection hmem
  rw [hsplit]
  have hshort := hothers predicate hmem (Nat.le_refl _)
  refine not_failsInTurn_of_before hshort hfalse fun other hother => ?_
  obtain ⟨hstated, hturn⟩ := hbefore other hother
  exact hothers other hstated hturn

end Query

end Sql

namespace Subject

variable {subject : Subject} {options : Options} {scopeId : String} {filters : List Filter}
  {selection : Option Selection} {store : Store} {query : Query} {projection : Projection}

/-- The look for the rows of a compiled query **fails at a record** that fails in its turn. -/
theorem scan_planned_eq_error (hstore : store.WellFormed) (hplanned : store.engine = .planned)
    (hquery : subject.compile options scopeId filters selection = .ok query)
    (hsome : projection.isEmpty = false) {record : Record}
    (hrecord : record ∈ store.records subject)
    (hfails : failsInTurn (query.joinedRow store.tables record.row)
      (query.inTurn projection.clamped) = true) :
    query.scan store.engine store.tables projection = .error .patternTooLong := by
  have hany : store.engine.fails store.tables query projection.clamped = true := by
    rw [hplanned]
    refine List.any_eq_true.mpr ⟨_, ?_, hfails⟩
    rw [joined_compile hstore hquery]
    exact List.mem_map_of_mem hrecord
  rw [Query.scan, hsome, hany]
  rfl

/-- The look for the rows of a compiled query succeeds if no record fails in its turn. -/
theorem scan_planned_eq_ok (hstore : store.WellFormed) (hplanned : store.engine = .planned)
    (hquery : subject.compile options scopeId filters selection = .ok query)
    (hnone : ∀ record ∈ store.records subject,
      failsInTurn (query.joinedRow store.tables record.row)
        (query.inTurn projection.clamped) = false) :
    query.scan store.engine store.tables projection = .ok () := by
  have hany : store.engine.fails store.tables query projection.clamped = false := by
    rw [hplanned]
    refine List.any_eq_false.mpr fun row hrow => ?_
    rw [joined_compile hstore hquery] at hrow
    obtain ⟨record, hrecord, rfl⟩ := List.mem_map.mp hrow
    exact Bool.eq_false_iff.mp (hnone record hrecord)
  rw [Query.scan, hany, Bool.and_false]
  rfl

/-- A compiled query **fails at a record** that fails in its turn. -/
theorem fetchIds_planned_eq_error (hstore : store.WellFormed) (hplanned : store.engine = .planned)
    (hquery : subject.compile options scopeId filters selection = .ok query)
    (hcheck : query.check .ids = .ok ()) {record : Record}
    (hrecord : record ∈ store.records subject)
    (hfails : failsInTurn (query.joinedRow store.tables record.row) (query.inTurn .ids) = true) :
    store.fetchIds (.select query .sqlite .ids) = .error .patternTooLong := by
  have hscan : query.scan store.engine store.tables .ids = .error .patternTooLong :=
    scan_planned_eq_error hstore hplanned hquery rfl hrecord hfails
  rw [fetchIds_compile_eq hstore hquery, hcheck, hscan]
  rfl

/-- A compiled query with a pattern that is too long **selects nothing** if no record fails in its
turn. -/
theorem fetchIds_planned_eq_nil (hstore : store.WellFormed) (hplanned : store.engine = .planned)
    (hquery : subject.compile options scopeId filters selection = .ok query)
    (hcheck : query.check .ids = .ok ()) (hlong : query.SearchesTooLong)
    (hnone : ∀ record ∈ store.records subject,
      failsInTurn (query.joinedRow store.tables record.row) (query.inTurn .ids) = false) :
    store.fetchIds (.select query .sqlite .ids) = .ok [] := by
  have hscan : query.scan store.engine store.tables .ids = .ok () :=
    scan_planned_eq_ok hstore hplanned hquery hnone
  rw [fetchIds_compile_eq hstore hquery, hcheck, hscan,
    asked_eq_nil_of_scan hstore hquery hlong rfl hscan]
  rfl

end Subject

end LogFilter
