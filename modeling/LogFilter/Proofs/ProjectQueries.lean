import LogFilter.Proofs.ProjectPart

/-!
# Queries of One Project

The side tables of a query are not held to any project, and its conditions are looked at for
the calls of every project. Of the rows that match nothing of this can be seen: the response
and the tags that the joins give to a call of the project are in the part of the project, and
a call of another project fails the condition of the scope. But the condition of the scope need
not be the first one that is looked at, and a pattern that is too long fails wherever it is met.
So the results agree only *up to patterns* (`AgreeUnless`).

A query with such a pattern that does not fail has no rows at all, so not even a bulk update
does anything different to the two stores.

## Main results

* `Store.WellFormed.rows_ofProject`: a query of a project has the same rows on its part.
* `Store.WellFormed.execute_agree`: it has the same result.
* `Store.WellFormed.updateTags_agree`: a bulk update does the same to both.
* `Store.WellFormed.owns_of_fetchIds`: the ids that a query selects belong to the project.
-/

namespace LogFilter

open Sql Subject

/-! ### The part of a project -/

namespace Store

variable {store : Store} {project : String} {options : Options} {filters : List Filter}
  {selection : Option Selection}

/-- The joins of a query give a call of the project the same row on the part of the project. -/
theorem WellFormed.joinedRow_ofProject (h : store.WellFormed) {query : Query}
    (hquery : loggedCalls.compile options project filters selection = .ok query)
    {call : LoggedCall} (howns : store.owns project call.id = true) :
    query.joinedRow (store.ofProject project).tables call.row =
      query.joinedRow store.tables call.row := by
  obtain ⟨clauses, hclauses, rfl⟩ := compile_eq_ok_iff.mp hquery
  refine congrArg (fun entries : JoinedRow => entries.reverse ++ [("lc", call.row)])
    (List.map_congr_left fun join hjoin => congrArg (Prod.mk join.tableAlias) ?_)
  change join.partner _ [("lc", call.row)] = join.partner _ [("lc", call.row)]
  rcases List.mem_append.mp hjoin with hmem | hmem
  · obtain rfl := List.mem_singleton.mp hmem
    have hpart := (store.ofProject project).partner_responseJoin call
    rw [response?_ofProject howns] at hpart
    exact hpart.trans (store.partner_responseJoin call).symm
  · obtain ⟨tags, position, name, htags, -, rfl⟩ := hclauses.exists_joinAt hmem
    obtain rfl := Option.some.inj htags
    have hpart := (store.ofProject project).partner_tagJoin call position name
    rw [h.tag?_ofProject howns] at hpart
    exact hpart.trans (store.partner_tagJoin call position name).symm

/-- A call whose joined row meets the conditions of a query of a project is one of its calls. -/
theorem projectId_eq_of_meets {query : Query}
    (hquery : loggedCalls.compile options project filters selection = .ok query)
    {call : LoggedCall} (hmem : call ∈ store.calls)
    (hmeets : Meets (query.joinedRow store.tables call.row) query.predicates) :
    call.projectId = project := by
  have hrecord : Record.call call ∈ store.records loggedCalls := List.mem_map_of_mem hmem
  have hasked := (meets_predicates_iff hquery hrecord).mp hmeets
  rw [Store.meets, Bool.and_eq_true, Bool.and_eq_true] at hasked
  exact beq_iff_eq.mp hasked.1.1

/-- **A query of a project has the same rows on the part of the project.** -/
theorem WellFormed.rows_ofProject (h : store.WellFormed) {query : Query}
    (hquery : loggedCalls.compile options project filters selection = .ok query) :
    query.rows (store.ofProject project).tables = query.rows store.tables := by
  have hpart : query.joined (store.ofProject project).tables =
      (store.calls.filter fun call => call.projectId == project).map
        fun call => query.joinedRow (store.ofProject project).tables call.row := by
    rw [joined_compile (h.ofProject project) hquery, records, List.map_map]
    rfl
  have hwhole : query.joined store.tables =
      store.calls.map fun call => query.joinedRow store.tables call.row := by
    rw [joined_compile h hquery, records, List.map_map]
    rfl
  have hjoined : (store.calls.filter fun call => call.projectId == project).map
      (fun call => query.joinedRow (store.ofProject project).tables call.row) =
        (store.calls.filter fun call => call.projectId == project).map
          fun call => query.joinedRow store.tables call.row := by
    refine List.map_congr_left fun call hcall => ?_
    obtain ⟨hmem, hproject⟩ := List.mem_filter.mp hcall
    exact h.joinedRow_ofProject hquery ((h.owns_call_iff hmem).mpr (beq_iff_eq.mp hproject))
  rw [Query.rows, Query.rows, hpart, hwhole, hjoined, List.filter_map, List.filter_map,
    List.filter_filter]
  refine congrArg (List.map _) (List.filter_congr fun call hmem => ?_)
  rw [Function.comp_apply, Bool.and_eq_left_iff_imp, decide_eq_true_eq]
  exact fun hmeets => beq_iff_eq.mpr (projectId_eq_of_meets hquery hmem hmeets)

/-- **A statement of a project has the same result on the part of the project**, up to
patterns. -/
theorem WellFormed.execute_agree (h : store.WellFormed) {query : Query}
    (hquery : loggedCalls.compile options project filters selection = .ok query)
    (dialect : Dialect) (projection : Projection) :
    AgreeUnless query.SearchesTooLong
      ((Statement.select query dialect projection).execute (store.ofProject project).engine
        (store.ofProject project).tables)
      ((Statement.select query dialect projection).execute store.engine store.tables) := by
  cases dialect with
  | postgres => exact .inl rfl
  | sqlite =>
    have hresult : query.result (store.ofProject project).tables projection =
        query.result store.tables projection := by
      simp only [Query.result, Query.idCells, h.rows_ofProject hquery]
    simp only [Statement.execute, Query.execute, hresult]
    cases query.check projection with
    | error e => exact .inl rfl
    | ok _ =>
      exact (scan_agree hquery _ _ _ _ projection).bind _

/-- The ids that a statement of a project selects belong to the project. -/
theorem WellFormed.owns_of_fetchIds (h : store.WellFormed) {query : Query}
    (hquery : loggedCalls.compile options project filters selection = .ok query)
    {ids : List String} (hids : store.fetchIds (.select query .sqlite .ids) = .ok ids)
    {id : String} (hmem : id ∈ ids) : store.owns project id = true := by
  rcases fetchIds_compile_cases h hquery with ⟨found, hfound, hperm⟩ | ⟨error, -, herror⟩
  · obtain rfl := Except.ok.inj (hids.symm.trans hfound)
    obtain ⟨record, hrecord, rfl⟩ := List.mem_map.mp (hperm.mem_iff.mp hmem)
    obtain ⟨hstored, hmeets⟩ := List.mem_filter.mp hrecord
    obtain ⟨call, hcall, rfl⟩ := List.mem_map.mp hstored
    have hscope : (call.projectId == project) = true := by
      rw [Store.meets, Bool.and_eq_true, Bool.and_eq_true] at hmeets
      exact hmeets.1.1
    exact (h.owns_call_iff hcall).mpr (beq_iff_eq.mp hscope)
  · rw [herror] at hids
    cases hids

/-- A bulk update with a pattern that is too long changes nothing. -/
theorem WellFormed.updateTags_eq_self (h : store.WellFormed) {query : Query}
    (hquery : loggedCalls.compile options project filters selection = .ok query)
    (hlong : query.SearchesTooLong)
    {tags : NameMap (Option String)} {result : Store × Nat}
    (hresult : store.updateTags (.select query .sqlite .ids) tags = .ok result) :
    result.1 = store := by
  obtain ⟨ids, hids, rfl⟩ := updateTags_eq_ok_iff.mp hresult
  obtain rfl := eq_nil_of_searchesTooLong h hquery hlong hids
  rfl

/-- **A bulk update of a project has the same outcome on the part of the project**, up to
patterns. -/
theorem WellFormed.updateTags_agree (h : store.WellFormed) {query : Query}
    (hquery : loggedCalls.compile options project filters selection = .ok query)
    (tags : NameMap (Option String)) :
    AgreeUnless query.SearchesTooLong
      ((store.ofProject project).updateTags (.select query .sqlite .ids) tags)
      ((store.updateTags (.select query .sqlite .ids) tags).map fun result =>
        (result.1.ofProject project, result.2)) := by
  have hfetch : AgreeUnless query.SearchesTooLong
      ((store.ofProject project).fetchIds (.select query .sqlite .ids))
      (store.fetchIds (.select query .sqlite .ids)) :=
    (h.execute_agree hquery .sqlite .ids).bind _
  rcases hfetch with hsame | ⟨hlong, herror | herror⟩
  · left
    cases hids : store.fetchIds (.select query .sqlite .ids) with
    | error e =>
      simp only [Store.updateTags, hsame, hids]
      rfl
    | ok ids =>
      have hown : ∀ id ∈ ids, store.owns project id = true :=
        fun id hmem => h.owns_of_fetchIds hquery hids hmem
      rw [updateTags_eq_ok_iff.mpr ⟨ids, hids, rfl⟩,
        updateTags_eq_ok_iff.mpr ⟨ids, hsame.trans hids, rfl⟩]
      exact congrArg (fun part => Except.ok (part, ids.length))
        (h.ofProject_assignAll tags.entries hown).symm
  · exact .inr ⟨hlong, .inl (by rw [Store.updateTags, herror]; rfl)⟩
  · exact .inr ⟨hlong, .inr (by rw [Store.updateTags, herror]; rfl)⟩

/-- A bulk update of another project leaves the part of a project as it is. -/
theorem WellFormed.ofProject_updateTags_of_ne (h : store.WellFormed) {other : String}
    (hne : other ≠ project) {query : Query}
    (hquery : loggedCalls.compile options other filters selection = .ok query)
    {tags : NameMap (Option String)} {result : Store × Nat}
    (hresult : store.updateTags (.select query .sqlite .ids) tags = .ok result) :
    result.1.ofProject project = store.ofProject project := by
  obtain ⟨ids, hids, rfl⟩ := updateTags_eq_ok_iff.mp hresult
  refine h.ofProject_assignAll_of_foreign tags.entries fun id hmem => ?_
  refine Bool.eq_false_iff.mpr fun howns => hne ?_
  exact h.owner_unique howns (h.owns_of_fetchIds hquery hids hmem)

end Store

end LogFilter
