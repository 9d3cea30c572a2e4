import LogFilter.Proofs.Placeholders

/-!
# The Aliases of a Compiled Query

A query reads its tables through aliases, and a condition on an alias that is missing, or that two
tables share, would be about the wrong table or about none. No compiled query has such a condition.
Its aliases are those of the base table, of the joins that its subject always has, and of one join
for each tag filter; the last ones end in the position of their filter, and positions are written
differently if they are different.

Which joins these are can be said of the filters alone, without the compiler
(`Subject.tagJoinsFrom`). The number of tag joins that a query gives, in whatever form it is
rendered, is their number, and that of the tag filters.

## Main definitions

* `Query.aliases`: the aliases under which a query can be asked for columns.
* `Subject.tagJoinsFrom`: the joins of the tag filters among some filters.
* `Subject.WellAliased`: whether a query has the aliases it needs, for the filters it comes from.

## Main results

* `Subject.AddsAll.joins_eq`: filters add the joins of the tag filters among them, in their order.
* `Subject.AddsAll.columns_predicates`: the conditions of a compiled query are on its aliases.
* `Subject.wellAliased_compile`: every compiled query is well aliased.
-/

namespace LogFilter

open Sql

/-- The **aliases** of a query: that of its base table and those of its joins. -/
def Sql.Query.aliases (query : Query) : List String :=
  query.tableAlias :: query.joins.map LeftJoin.tableAlias

/-- The condition of a comparator is on the column of its operand. -/
theorem Comparator.columns_predicate (comparator : Comparator) (wildcards : Wildcards)
    (value : String) (operand : Operand) :
    (comparator.predicate wildcards value operand).columns = [operand.source] := by
  cases comparator <;> rfl

/-- The conditions of a selection are on the id and the status. -/
theorem Selection.columns_predicates {selection : Selection} {id : Column}
    {status : Option Column} {successStatus : Int} {predicate : Predicate} {column : Column}
    (hpredicate : predicate ∈ selection.predicates id status successStatus)
    (hcolumn : column ∈ predicate.columns) : column = id ∨ status = some column := by
  rcases List.mem_append.mp hpredicate with hmem | hmem
  · rw [idPredicates] at hmem
    split at hmem <;> split at hmem
    · cases hmem
    · obtain rfl := List.mem_singleton.mp hmem
      exact .inl (List.mem_singleton.mp hcolumn)
    · obtain rfl := List.mem_singleton.mp hmem
      cases hcolumn
    · obtain rfl := List.mem_singleton.mp hmem
      exact .inl (List.mem_singleton.mp hcolumn)
  · obtain ⟨read, hstatus, rfl⟩ := List.mem_map.mp hmem
    obtain rfl := List.mem_singleton.mp hcolumn
    exact .inr (Option.mem_toList.mp hstatus)

namespace Subject

variable {subject : Subject} {options : Options} {scopeId : String} {filters : List Filter}
  {selection : Option Selection} {query : Query}

/-! ### The joins of tag filters -/

/-- The join that a filter asks for at a position: that of its tag if it is a tag filter. -/
def tagJoin? (subject : Subject) (position : Nat) (filter : Filter) : Option LeftJoin :=
  if subject.isTagFilter filter then
    subject.tags.map fun tags => tags.joinAt subject.id position filter.field
  else none

/-- The **joins of the tag filters** among some filters, in the order of the filters, the first of
which is at a given position. -/
def tagJoinsFrom (subject : Subject) (position : Nat) (filters : List Filter) : List LeftJoin :=
  (filters.zipIdx position).filterMap fun (filter, i) => subject.tagJoin? i filter

/-- Exactly the tag filters ask for joins. -/
theorem isSome_tagJoin? (subject : Subject) (position : Nat) (filter : Filter) :
    (subject.tagJoin? position filter).isSome = subject.isTagFilter filter := by
  rw [tagJoin?]
  cases htag : subject.isTagFilter filter with
  | false => rfl
  | true =>
    rw [isTagFilter, Bool.and_eq_true] at htag
    rw [if_pos rfl, Option.isSome_map, htag.2]

/-- The joins of tag filters, one filter at a time. -/
theorem tagJoinsFrom_cons (subject : Subject) (position : Nat) (filter : Filter)
    (rest : List Filter) :
    subject.tagJoinsFrom position (filter :: rest) =
      (subject.tagJoin? position filter).toList ++ subject.tagJoinsFrom (position + 1) rest := by
  simp only [tagJoinsFrom, List.zipIdx_cons, List.filterMap_cons]
  cases subject.tagJoin? position filter <;> rfl

/-- There are as many joins as there are tag filters. -/
theorem length_tagJoinsFrom (subject : Subject) (position : Nat) (filters : List Filter) :
    (subject.tagJoinsFrom position filters).length = filters.countP subject.isTagFilter := by
  induction filters generalizing position with
  | nil => rfl
  | cons filter rest ih =>
    rw [tagJoinsFrom_cons, List.length_append, ih, List.countP_cons, Nat.add_comm,
      ← isSome_tagJoin? subject position filter]
    cases subject.tagJoin? position filter <;> rfl

/-- A filter adds the join that it asks for. -/
theorem Adds.join_eq_tagJoin? {position : Nat} {filter : Filter} {clause : Option Clause}
    (h : subject.Adds options position filter clause) :
    clause.bind Clause.join = subject.tagJoin? position filter := by
  rw [tagJoin?, isTagFilter]
  cases h with
  | nothing hnone => simp [hnone]
  | column hvalue _ hfield => simp [hfield]
  | tag hvalue _ hfield _ htags => simp [hvalue, hfield, htags, TagTable.plan]
  | skipped _ _ _ _ hnone => simp [hnone]

/-- **Filters add the joins of the tag filters among them**, in the order of the filters. -/
theorem AddsAll.joins_eq {position : Nat} {clauses : List Clause}
    (h : subject.AddsAll options position filters clauses) :
    clauses.filterMap Clause.join = subject.tagJoinsFrom position filters := by
  induction h with
  | nil => rfl
  | @cons position filter rest clause clauses hfirst _ ih =>
    rw [List.filterMap_append, ih, tagJoinsFrom_cons, ← hfirst.join_eq_tagJoin?]
    cases clause with
    | none => rfl
    | some clause => cases hjoin : clause.join <;> simp [hjoin]

/-! ### The columns that are read -/

/-- The known fields of a subject are read from its base table or its fixed joins. -/
theorem fieldAlias_mem (subject : Subject) : ∀ field ∈ subject.fields,
    field.column.tableAlias ∈ subject.tableAlias :: subject.joins.map LeftJoin.tableAlias := by
  cases subject <;> decide

/-- The condition that a filter adds is on a known field or on the join that it adds. -/
theorem Adds.columns_predicate {position : Nat} {filter : Filter} {clause : Clause}
    (h : subject.Adds options position filter (some clause)) {column : Column}
    (hcolumn : column ∈ clause.predicate.columns) :
    (∃ field ∈ subject.fields, column = field.column) ∨
      ∃ join, clause.join = some join ∧ column.tableAlias = join.tableAlias := by
  cases h with
  | column _ _ hfield =>
    rw [Comparator.columns_predicate] at hcolumn
    exact .inl ⟨_, (field?_eq_some hfield).1, List.mem_singleton.mp hcolumn⟩
  | tag =>
    rw [TagTable.plan, Comparator.columns_predicate] at hcolumn
    obtain rfl := List.mem_singleton.mp hcolumn
    exact .inr ⟨_, rfl, rfl⟩

/-- The conditions that filters add are on known fields or on the joins that they add. -/
theorem AddsAll.columns_clauses {position : Nat} {clauses : List Clause}
    (h : subject.AddsAll options position filters clauses) {clause : Clause}
    (hclause : clause ∈ clauses) {column : Column} (hcolumn : column ∈ clause.predicate.columns) :
    (∃ field ∈ subject.fields, column = field.column) ∨
      ∃ join ∈ clauses.filterMap Clause.join, column.tableAlias = join.tableAlias := by
  induction h with
  | nil => cases hclause
  | cons hfirst _ ih =>
    rcases List.mem_append.mp hclause with hmem | hmem
    · obtain rfl := Option.mem_toList.mp hmem
      refine (hfirst.columns_predicate hcolumn).imp_right fun ⟨join, hjoin, halias⟩ => ?_
      exact ⟨join, List.mem_filterMap.mpr ⟨clause, hclause, hjoin⟩, halias⟩
    · refine (ih hmem).imp_right fun ⟨join, hjoin, halias⟩ => ⟨join, ?_, halias⟩
      rw [List.filterMap_append]
      exact List.mem_append_right _ hjoin

/-- The conditions of a scope are on the base table. -/
theorem columns_scope {predicate : Predicate} (hpredicate : predicate ∈ subject.scope scopeId)
    {column : Column} (hcolumn : column ∈ predicate.columns) :
    column.tableAlias = subject.tableAlias := by
  cases subject <;>
    simp only [scope, List.mem_cons, List.not_mem_nil, or_false] at hpredicate
  case loggedCalls =>
    obtain rfl := hpredicate
    exact List.mem_singleton.mp hcolumn ▸ rfl
  case datasetEntries =>
    rcases hpredicate with rfl | rfl <;> exact List.mem_singleton.mp hcolumn ▸ rfl

/-- The aliases of a compiled query are those that every query has and those of the tag joins. -/
theorem aliases_assemble (clauses : List Clause) :
    (subject.assemble options scopeId selection clauses).aliases =
      (subject.tableAlias :: subject.joins.map LeftJoin.tableAlias) ++
        (clauses.filterMap Clause.join).map LeftJoin.tableAlias :=
  congrArg (subject.tableAlias :: ·) List.map_append

/-- **The conditions of a compiled query are on its aliases.** -/
theorem AddsAll.columns_predicates {clauses : List Clause}
    (h : subject.AddsAll options 0 filters clauses) {predicate : Predicate}
    (hpredicate :
      predicate ∈ (subject.assemble options scopeId selection clauses).predicates)
    {column : Column} (hcolumn : column ∈ predicate.columns) :
    column.tableAlias ∈ (subject.assemble options scopeId selection clauses).aliases := by
  rw [aliases_assemble]
  rcases List.mem_append.mp hpredicate with hpredicate | hselection
  · rcases List.mem_append.mp hpredicate with hscope | hclause
    · rw [columns_scope hscope hcolumn]
      exact List.mem_append_left _ List.mem_cons_self
    · obtain ⟨clause, hmem, rfl⟩ := List.mem_map.mp hclause
      rcases h.columns_clauses hmem hcolumn with ⟨field, hfield, rfl⟩ | ⟨join, hjoin, halias⟩
      · exact List.mem_append_left _ (subject.fieldAlias_mem field hfield)
      · rw [halias]
        exact List.mem_append_right _ (List.mem_map_of_mem hjoin)
  · refine List.mem_append_left _ ?_
    cases selection with
    | none => cases hselection
    | some selection =>
      rcases Selection.columns_predicates hselection hcolumn with rfl | hstatus
      · exact List.mem_cons_self
      · cases subject with
        | datasetEntries => cases hstatus
        | loggedCalls =>
          obtain rfl := Option.some.inj hstatus
          decide

/-- Each join of a compiled query is on the id of the base record and its own columns. -/
theorem AddsAll.columns_on {clauses : List Clause}
    (h : subject.AddsAll options 0 filters clauses) {join : LeftJoin}
    (hjoin : join ∈ subject.joins ++ clauses.filterMap Clause.join) {predicate : Predicate}
    (hpredicate : predicate ∈ join.on) {column : Column} (hcolumn : column ∈ predicate.columns) :
    column = subject.id ∨ column.tableAlias = join.tableAlias := by
  rcases List.mem_append.mp hjoin with hmem | hmem
  · cases subject with
    | datasetEntries => cases hmem
    | loggedCalls =>
      obtain rfl := List.mem_singleton.mp hmem
      obtain rfl := List.mem_singleton.mp hpredicate
      simp only [Predicate.columns, List.mem_cons, List.not_mem_nil, or_false] at hcolumn
      rcases hcolumn with rfl | rfl
      · exact .inl rfl
      · exact .inr rfl
  · obtain ⟨tags, i, name, -, -, rfl⟩ := h.exists_joinAt hmem
    simp only [TagTable.joinAt, List.mem_cons, List.not_mem_nil, or_false] at hpredicate
    rcases hpredicate with rfl | rfl <;>
      simp only [Predicate.columns, Operand.source, List.mem_cons, List.not_mem_nil,
        or_false] at hcolumn
    · rcases hcolumn with rfl | rfl
      · exact .inl rfl
      · exact .inr rfl
    · obtain rfl := hcolumn
      exact .inr rfl

/-! ### Compiled queries -/

/-- Whether a query is **well aliased** for the filters that it comes from: every column that it
reads belongs to exactly one of its tables, and it has the joins that the filters ask for. -/
structure WellAliased (subject : Subject) (filters : List Filter) (query : Query) : Prop where
  /-- No two tables share an alias. -/
  distinct : query.aliases.Nodup
  /-- The base table goes by the alias of the subject. -/
  base : query.tableAlias = subject.tableAlias
  /-- The base record is identified by a column of the base table. -/
  id : query.id = ⟨query.tableAlias, "id"⟩
  /-- The rows are ordered by a column of the base table. -/
  order : query.orderBy.tableAlias = query.tableAlias
  /-- Every condition is on columns of the base table and of the joins. -/
  conditions : ∀ predicate ∈ query.predicates, ∀ column ∈ predicate.columns,
    column.tableAlias ∈ query.aliases
  /-- A join is on the id of the base record and columns of the joined table. -/
  on : ∀ join ∈ query.joins, ∀ predicate ∈ join.on, ∀ column ∈ predicate.columns,
    column = query.id ∨ column.tableAlias = join.tableAlias
  /-- After the joins of the subject come those of the tag filters, in the order of these. -/
  joins : query.joins = subject.joins ++ subject.tagJoinsFrom 0 filters
  /-- The number of tag joins is that of the tag filters. -/
  count : query.tagJoins = filters.countP subject.isTagFilter
  /-- It is the number of joins beyond those of the subject. -/
  beyond : query.joins.length = subject.joins.length + query.tagJoins
  /-- Dataset entries have no tag joins. -/
  entries : subject = .datasetEntries → query.tagJoins = 0
  /-- A rendered query has the same number. -/
  rendered : ∀ dialect projection,
    (Statement.select query dialect projection).tagJoins = query.tagJoins

/-- **Every compiled query is well aliased**, whatever the filters, their number and the options
with which they were compiled. -/
theorem wellAliased_compile
    (h : subject.compile options scopeId filters selection = .ok query) :
    subject.WellAliased filters query := by
  obtain ⟨clauses, hadds, rfl⟩ := compile_eq_ok_iff.mp h
  have hcount : (clauses.filterMap Clause.join).length = filters.countP subject.isTagFilter := by
    rw [hadds.joins_eq, length_tagJoinsFrom]
  constructor
  case distinct => exact (hadds.wellScoped scopeId selection).distinct
  case base => rfl
  case id => rfl
  case order => cases subject <;> rfl
  case conditions =>
    exact fun predicate hpredicate column => hadds.columns_predicates hpredicate
  case on => exact fun join hjoin predicate hpredicate column => hadds.columns_on hjoin hpredicate
  case joins => rw [← hadds.joins_eq]; rfl
  case count => exact hcount
  case beyond => exact List.length_append
  case entries =>
    rintro rfl
    refine hcount.trans (List.countP_eq_zero.mpr fun filter _ htag => ?_)
    rw [isTagFilter, Bool.and_eq_true] at htag
    exact absurd htag.2 Bool.false_ne_true
  case rendered => exact fun _ _ => rfl

/-- Of five filters, the second and the last are tag filters, and both name one tag; the third has
no value. -/
def repeatedTag : List Filter :=
  [⟨"model", "=", some "gpt"⟩, ⟨"env", "=", some "prod"⟩, ⟨"env", "LIKE", some ""⟩,
    ⟨"Request", "CONTAINS", some "hi"⟩, ⟨"env", "!=", some "test"⟩]

/-- The query of a list with two filters on one tag has a join for each, at its position. -/
theorem wellAliased_repeatedTag :
    ∃ query, loggedCalls.compile {} "p" repeatedTag (some (.only ["c"])) = .ok query ∧
      loggedCalls.WellAliased repeatedTag query ∧ query.tagJoins = 2 ∧
      query.aliases = ["lc", "lcmr", "lct1", "lct4"] := by
  obtain ⟨query, hquery⟩ : ∃ query,
      loggedCalls.compile {} "p" repeatedTag (some (.only ["c"])) = .ok query := ⟨_, rfl⟩
  have hwell := wellAliased_compile hquery
  refine ⟨query, hquery, hwell, hwell.count.trans (by decide), ?_⟩
  rw [Query.aliases, hwell.base, hwell.joins]
  decide

end Subject

end LogFilter
