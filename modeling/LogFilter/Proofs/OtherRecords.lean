import LogFilter.Proofs.BulkUpdate
import LogFilter.Proofs.Complement

/-!
# Records That Are Not Written To

The responses and the tags of all calls stand in two tables, and a query joins their rows by the
ids of calls. A write to some calls leaves every other call with what it had: its row in its
place, its response, and its tags (`Store.AgreesOutside`). Each single change does, and so does
every loop of changes. What a query asks of a call is said by no more than that, so whether
another call is asked for stays as it was, and so does the order of the others.

That a query could be run before does not say that it can be run afterwards. A pattern that is
too long is found out only when it is looked at, and a write can make it so that it is: a query
for the calls of a project can begin to fail with the first of them.

## Main definitions

* `Store.AgreesOutside`: whether two stores agree on all calls but those of some ids.
* `Operation.writesTo`: the ids of the calls that an operation writes to.
* `Query.SameApartFrom`: whether two outcomes of a query are the same apart from some ids.

## Main results

* `Store.AgreesOutside.after`: an operation leaves all other calls as they are.
* `Store.AgreesOutside.askedIds_eq`: they are asked for as before.
* `Subject.fetchIds_after`: what an operation does to the result of a query.
* `Subject.fetchIds_starts_to_fail`: a query that fails after a call has been recorded.
-/

namespace LogFilter

open Sql

/-! ### Stores that agree outside some ids -/

/-- Whether a store **agrees with another outside some ids**: on the entries, on the rows of all
calls but those of these ids, in their order, and on the responses and tags of all other ids. -/
structure Store.AgreesOutside (next store : Store) (ids : List String) : Prop where
  calls : next.calls.filter (·.id ∉ ids) = store.calls.filter (·.id ∉ ids)
  response? : ∀ callId ∉ ids, next.response? callId = store.response? callId
  tag? : ∀ callId ∉ ids, ∀ name, next.tag? callId name = store.tag? callId name
  entries : next.entries = store.entries
  engine : next.engine = store.engine

namespace Store.AgreesOutside

variable {store next later : Store} {ids : List String}

/-- A store agrees with itself. -/
theorem refl (store : Store) (ids : List String) : store.AgreesOutside store ids :=
  ⟨rfl, fun _ _ => rfl, fun _ _ _ => rfl, rfl, rfl⟩

/-- What agrees outside the same ids, one store after the other, agrees. -/
theorem trans (hlater : later.AgreesOutside next ids) (h : next.AgreesOutside store ids) :
    later.AgreesOutside store ids where
  calls := hlater.calls.trans h.calls
  response? := fun callId hid => (hlater.response? callId hid).trans (h.response? callId hid)
  tag? := fun callId hid name => (hlater.tag? callId hid name).trans (h.tag? callId hid name)
  entries := hlater.entries.trans h.entries
  engine := hlater.engine.trans h.engine

/-- **A loop of changes**, each of which leaves the other calls as they are, does so. -/
theorem foldl {α : Type} {change : Store → α → Store} {steps : List α}
    (hchange : ∀ step ∈ steps, ∀ store, (change store step).AgreesOutside store ids)
    (store : Store) : (steps.foldl change store).AgreesOutside store ids := by
  induction steps generalizing store with
  | nil => exact .refl store ids
  | cons step rest ih =>
    obtain ⟨hfirst, hrest⟩ := List.forall_mem_cons.mp hchange
    exact (ih hrest (change store step)).trans (hfirst store)

section Changes

variable {callId : String}

/-- The tags of a call that is written to are not those of another one. -/
theorem key_ne {other : String} (hid : callId ∈ ids) (hother : other ∉ ids) (name tag : String) :
    (callId, name) ≠ (other, tag) := by
  intro hkey
  obtain ⟨rfl, -⟩ := Prod.mk.inj hkey
  exact hother hid

/-- Setting a tag leaves all other calls as they are. -/
theorem setTag (hid : callId ∈ ids) (store : Store) (name : String) (value : Option String) :
    (store.setTag callId name value).1.AgreesOutside store ids := by
  have htag : ∀ other ∉ ids, ∀ tag,
      (store.setTag callId name value).1.tag? other tag = store.tag? other tag :=
    fun _ hother tag => tag?_setTag_of_ne (key_ne hid hother name tag) value
  revert htag
  unfold Store.setTag
  cases store.call? callId with
  | none => exact fun _ => .refl store ids
  | some call => exact fun htag => ⟨rfl, fun _ _ => rfl, htag, rfl, rfl⟩

/-- Removing a tag leaves all other calls as they are. -/
theorem removeTag (hid : callId ∈ ids) (store : Store) (name : String) :
    (store.removeTag callId name).1.AgreesOutside store ids where
  calls := rfl
  response? := fun _ _ => rfl
  tag? := fun _ hother tag => tag?_removeTag_of_ne (key_ne hid hother name tag)
  entries := rfl
  engine := rfl

/-- Setting some tags of one call leaves all other calls as they are. -/
theorem setTags (hid : callId ∈ ids) (store : Store) (tags : List (String × Option String)) :
    (store.setTags callId tags).AgreesOutside store ids :=
  foldl (fun tag _ store => setTag hid store tag.1 tag.2) store

/-- So do assignments to one call. -/
theorem assignTags (hid : callId ∈ ids) (store : Store)
    (assignments : List (String × Option String)) :
    (store.assignTags assignments callId).AgreesOutside store ids := by
  refine foldl (fun assignment _ store => ?_) store
  unfold Store.assignTag
  split
  · exact setTag hid store _ _
  · exact removeTag hid store _

/-- A new call, with its response, leaves all other calls as they are. -/
theorem addCall {call : LoggedCall} (hid : call.id ∈ ids) (store : Store)
    {response : Option ModelResponse} (hresponse : ∀ r ∈ response, r.callId = call.id) :
    (store.addCall call response).AgreesOutside store ids where
  calls := by
    rw [Store.addCall, List.filter_append, List.filter_singleton]
    simp [hid]
  response? := by
    intro other hother
    have hnone : response.toList.find? (fun r => r.callId == other) = none := by
      refine List.find?_eq_none.mpr fun r hr hsame => hother ?_
      rw [← eq_of_beq hsame, hresponse r (Option.mem_toList.mp hr)]
      exact hid
    rw [Store.response?, Store.addCall, List.find?_append, hnone, Option.or_none]
    rfl
  tag? := fun _ _ _ => rfl
  entries := rfl
  engine := rfl

end Changes

end Store.AgreesOutside

/-! ### Operations on calls -/

/-- Whether an operation is one **on calls**: every operation is but the one that adds a dataset
entry. -/
def Operation.OnCalls : Operation → Prop
  | addEntry _ => False
  | record _ _ | setTag _ _ _ | removeTag _ _ | updateTags _ _ => True

/-- The ids of the calls that an operation **writes to**: the one that it names, or for a bulk
update those that its statement selects. -/
def Operation.writesTo (store : Store) : Operation → List String
  | record _ call => [call.id]
  | addEntry _ => []
  | setTag callId _ _ | removeTag callId _ => [callId]
  | updateTags statement _ => (store.fetchIds statement).toOption.getD []

namespace Store.AgreesOutside

/-- **An operation on calls leaves all other calls as they are**, whether it succeeds or fails. -/
theorem after (store : Store) {operation : Operation} (hcalls : operation.OnCalls) :
    (store.after operation).AgreesOutside store (operation.writesTo store) := by
  unfold Store.after
  cases hattempt : operation.attempt store with
  | error e => exact .refl store _
  | ok next =>
    cases operation with
    | addEntry entry => exact hcalls.elim
    | setTag callId name value =>
      cases hattempt
      exact setTag (List.mem_singleton_self _) store name value
    | removeTag callId name =>
      cases hattempt
      exact removeTag (List.mem_singleton_self _) store name
    | record projectId call =>
      obtain ⟨-, rfl⟩ := record_eq_ok_iff.mp hattempt
      have hadded : (store.addCall (call.toRow projectId) call.responseRow).AgreesOutside store
          [call.id] :=
        addCall (List.mem_singleton_self _) store fun r hr =>
          (call.responseRow_keys projectId r hr).1
      exact (setTags (List.mem_singleton_self _) _ _).trans hadded
    | updateTags statement tags =>
      obtain ⟨ids, hids, rfl⟩ := attempt_updateTags_eq_ok_iff.mp hattempt
      rw [Operation.writesTo, hids]
      exact foldl (fun id hmem store => assignTags hmem store tags.entries) store

/-! ### What is asked for -/

variable {store next : Store} {ids : List String} {options : Options} {scopeId : String}
  {filters : List Filter} {selection : Option Selection}

/-- A field denotes of every other call what it did. -/
theorem callText?_eq (h : next.AgreesOutside store ids) {call : LoggedCall} (hid : call.id ∉ ids)
    (field : String) : next.callText? call field = store.callText? call field := by
  have htag (name : String) : next.tagValue? call.id name = store.tagValue? call.id name :=
    congrArg (Option.map CallTag.value) (h.tag? call.id hid name)
  simp only [Store.callText?, h.response? call.id hid, htag]

/-- **Every other record is asked for as before.** -/
theorem meets_eq (h : next.AgreesOutside store ids) {record : Record} (hid : record.id ∉ ids) :
    next.meets options scopeId filters selection record =
      store.meets options scopeId filters selection record := by
  cases record with
  | entry entry => rfl
  | call call =>
    have hsatisfies : next.satisfies options (.call call) =
        store.satisfies options (.call call) := by
      funext filter
      simp only [Store.satisfies, Store.admits, h.callText?_eq hid]
    have hselects : next.selects options (.call call) selection =
        store.selects options (.call call) selection := by
      cases selection with
      | none => rfl
      | some selection =>
        simp only [Store.selects, Store.hasStatus, h.response? call.id hid]
    rw [Store.meets, Store.meets, hsatisfies, hselects]

/-- The other ids that are asked for, before they are put in order. -/
theorem filter_askedIds (hstore : store.WellFormed) (ids : List String) :
    (store.askedIds .loggedCalls options scopeId filters selection).filter (· ∉ ids) =
      ((((store.calls.filter (·.id ∉ ids)).map Record.call).filter
        (store.meets options scopeId filters selection)).mergeSort Record.precedes).map
          Record.id := by
  have hnodup : (((store.records .loggedCalls).filter
      (store.meets options scopeId filters selection)).map Record.id).Nodup :=
    (hstore.nodup_ids .loggedCalls).sublist (List.filter_sublist.map _)
  have hothers : (store.calls.filter (·.id ∉ ids)).map Record.call =
      (store.records .loggedCalls).filter (·.id ∉ ids) := by
    rw [Store.records, List.filter_map]
    rfl
  rw [Store.askedIds, List.filter_map, Store.asked, Record.filter_mergeSort hnodup, hothers,
    List.filter_filter, List.filter_filter]
  simp only [Function.comp_apply, Bool.and_comm]

/-- **The other ids are asked for as before**, in the same order. -/
theorem askedIds_eq (h : next.AgreesOutside store ids) (hnext : next.WellFormed)
    (hstore : store.WellFormed) :
    (next.askedIds .loggedCalls options scopeId filters selection).filter (· ∉ ids) =
      (store.askedIds .loggedCalls options scopeId filters selection).filter (· ∉ ids) := by
  rw [filter_askedIds hnext, filter_askedIds hstore, h.calls]
  congr 2
  refine List.filter_congr fun record hmem => ?_
  obtain ⟨call, hcall, rfl⟩ := List.mem_map.mp hmem
  exact h.meets_eq (of_decide_eq_true (List.mem_filter.mp hcall).2)

end Store.AgreesOutside

/-! ### Results of queries -/

/-- Whether two outcomes of a query are the **same apart from some ids**: both of them give ids,
of which the others are the same in the same order, or both fail alike. Only if the query
searches for a pattern that is too long, one of them can fail where the other one does not. -/
inductive Sql.Query.SameApartFrom (query : Query) (ids : List String) :
    Except Error (List String) → Except Error (List String) → Prop
  | results {before after : List String} :
      after.filter (· ∉ ids) = before.filter (· ∉ ids) →
      SameApartFrom query ids (.ok before) (.ok after)
  | fails (error : Error) : SameApartFrom query ids (.error error) (.error error)
  /-- The pattern is looked at only after the write. -/
  | starts {before : List String} : query.SearchesTooLong →
      SameApartFrom query ids (.ok before) (.error .patternTooLong)
  /-- The pattern is looked at only before the write. -/
  | stops {after : List String} : query.SearchesTooLong →
      SameApartFrom query ids (.error .patternTooLong) (.ok after)

namespace Subject

variable {subject : Subject} {options : Options} {scopeId : String} {filters : List Filter}
  {selection : Option Selection} {store next : Store} {query : Query} {ids : List String}

/-- What a compiled query for calls selects in two stores that agree outside some ids. -/
theorem sameApartFrom_fetchIds (h : next.AgreesOutside store ids) (hnext : next.WellFormed)
    (hstore : store.WellFormed)
    (hquery : loggedCalls.compile options scopeId filters selection = .ok query) :
    query.SameApartFrom ids (store.fetchIds (.select query .sqlite .ids))
      (next.fetchIds (.select query .sqlite .ids)) := by
  rw [fetchIds_compile_eq hstore hquery, fetchIds_compile_eq hnext hquery]
  cases query.check .ids with
  | error e => exact .fails e
  | ok _ =>
    rcases scan_compile_cases hquery store.engine store.tables .ids with
      hbefore | ⟨hlong, hbefore⟩ <;>
      rcases scan_compile_cases hquery next.engine next.tables .ids with
        hafter | ⟨hlong', hafter⟩ <;>
      rw [hbefore, hafter]
    · exact .results (h.askedIds_eq hnext hstore)
    · exact .starts hlong'
    · exact .stops hlong
    · exact .fails _

/-- A compiled query for dataset entries has no joins. -/
theorem joins_eq_nil_of_compile
    (hquery : datasetEntries.compile options scopeId filters selection = .ok query) :
    query.joins = [] := by
  obtain ⟨clauses, hclauses, rfl⟩ := compile_eq_ok_iff.mp hquery
  refine List.eq_nil_iff_forall_not_mem.mpr fun join hmem => ?_
  obtain ⟨tags, _, _, htags, -⟩ := hclauses.exists_joinAt hmem
  cases htags

/-- **A query for dataset entries** has the same result in all stores with the same entries and the
same engine: it names no other table. -/
theorem fetchIds_eq_of_entries (hentries : next.entries = store.entries)
    (hengine : next.engine = store.engine)
    (hquery : datasetEntries.compile options scopeId filters selection = .ok query)
    (projection : Projection) :
    next.fetchIds (.select query .sqlite projection) =
      store.fetchIds (.select query .sqlite projection) := by
  have htable : query.table = "DatasetEntry" := by
    obtain ⟨clauses, -, rfl⟩ := compile_eq_ok_iff.mp hquery
    rfl
  have htables : ∀ name ∈ query.tableNames, next.tables name = store.tables name := by
    intro name hname
    rw [Query.tableNames, joins_eq_nil_of_compile hquery, htable] at hname
    obtain rfl := List.mem_singleton.mp hname
    exact congrArg (List.map DatasetEntry.row) hentries
  have hexecute : query.execute next.engine next.tables projection =
      query.execute store.engine store.tables projection := by
    rw [hengine]
    exact Query.execute_congr htables
  rw [Store.fetchIds, Store.fetchIds, Statement.execute, Statement.execute, hexecute]

/-- **A write to some calls changes no other record's membership**, in every reachable store and
for every compiled query. Whether the operation succeeds or fails, the ids that the query selects
before and after it are the same apart from those of the calls that are written to, and in the
same order; a query for dataset entries is not affected at all. -/
theorem fetchIds_after (hstore : store.Reachable) {operation : Operation}
    (hcalls : operation.OnCalls)
    (hquery : subject.compile options scopeId filters selection = .ok query) :
    query.SameApartFrom (operation.writesTo store) (store.fetchIds (.select query .sqlite .ids))
        ((store.after operation).fetchIds (.select query .sqlite .ids)) ∧
      (subject = .datasetEntries →
        (store.after operation).fetchIds (.select query .sqlite .ids) =
          store.fetchIds (.select query .sqlite .ids)) := by
  have hagrees := Store.AgreesOutside.after store hcalls
  cases subject with
  | loggedCalls =>
    have hnext := hstore.wellFormed.after operation
    exact ⟨sameApartFrom_fetchIds hagrees hnext hstore.wellFormed hquery, nofun⟩
  | datasetEntries =>
    have hsame := fetchIds_eq_of_entries hagrees.entries hagrees.engine hquery .ids
    refine ⟨?_, fun _ => hsame⟩
    rw [hsame]
    cases store.fetchIds (.select query .sqlite .ids) with
    | error e => exact .fails e
    | ok ids => exact .results rfl

/-- Setting the tag of one call makes a query select it, and the other one as before. -/
theorem fetchIds_after_twoCalls : ∃ query,
    loggedCalls.compile {} "p" [⟨"env", "!=", some "prod"⟩] none = .ok query ∧
      twoCalls.fetchIds (.select query .sqlite .ids) = .ok ["a"] ∧
      (twoCalls.after (.setTag "b" "env" (some "test"))).fetchIds (.select query .sqlite .ids) =
        .ok ["a", "b"] ∧
      query.SameApartFrom ["b"] (.ok ["a"]) (.ok ["a", "b"]) := by
  have hquery : loggedCalls.compile {} "p" [⟨"env", "!=", some "prod"⟩] none = .ok _ := rfl
  have hbefore : twoCalls.fetchIds (.select _ .sqlite .ids) = .ok ["a"] :=
    fetchIds_compile_of_pairwise reachable_twoCalls.wellFormed hquery rfl (by decide) (by decide)
  have hafter : (twoCalls.after (.setTag "b" "env" (some "test"))).fetchIds
      (.select _ .sqlite .ids) = .ok ["a", "b"] :=
    fetchIds_compile_of_pairwise (reachable_twoCalls.wellFormed.after _) hquery rfl (by decide)
      (by decide)
  have hcalls : Operation.OnCalls (.setTag "b" "env" (some "test")) := trivial
  obtain ⟨hsame, -⟩ := fetchIds_after reachable_twoCalls hcalls hquery
  rw [hbefore, hafter] at hsame
  exact ⟨_, rfl, hbefore, hafter, hsame⟩

/-- **A query can begin to fail with a write**: one with a pattern that is too long selects
nothing from the empty store, and cannot be run any more once a call has been recorded. -/
theorem fetchIds_starts_to_fail : ∃ query,
    loggedCalls.compile {} "p" [⟨"user", "NOT_CONTAINS", some (letters maxPatternBytes)⟩] none =
        .ok query ∧
      Store.empty.Reachable ∧ Store.empty.fetchIds (.select query .sqlite .ids) = .ok [] ∧
      ∀ ids, (Store.empty.after (.record "p" ⟨"a", none, newYear, none, .empty⟩)).fetchIds
        (.select query .sqlite .ids) ≠ .ok ids := by
  have hlong : maxPatternBytes ≤ (letters maxPatternBytes).utf8ByteSize :=
    Nat.le_of_eq (utf8ByteSize_letters maxPatternBytes).symm
  obtain ⟨query, hquery, hcheck, predicate, hmem, htoo⟩ := compile_long_pattern hlong
  have hempty := Store.WellFormed.empty .planned
  refine ⟨query, hquery, ⟨_, [], rfl⟩, ?_, fun ids => ?_⟩
  · refine fetchIds_planned_eq_nil hempty rfl hquery hcheck ⟨_, hmem, htoo⟩ fun record hrecord => ?_
    cases hrecord
  · exact fetchIds_compile_ne_ok (hempty.after _) hquery (.pattern hmem htoo)
      ⟨_, List.mem_cons_self, meets_long_pattern hlong rfl rfl⟩ ids

end Subject

end LogFilter
