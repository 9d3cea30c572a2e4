import LogFilter.Proofs.NewCalls

/-!
# Reports behind the Rows

The rows of calls, responses and entries come from reports and from nowhere else: a record or a new
entry that is not refused adds its rows, and no other operation touches these tables. So after a
run from the empty store they are the rows of the reports that were accepted, in the order in
which they came.

Whether a report was accepted depends on the store at its time, so what was accepted in a run is
gathered along the run.

## Main definitions

* `Operation.recorded?`, `Operation.added?`: the report of an operation, if it is accepted.
* `Store.recordedIn`, `Store.addedIn`: the reports that are accepted in a run.

## Main results

* `Store.calls_run`, `Store.responses_run`, `Store.entries_run`: the rows after a run.
* `Store.response?_run`: the response of a call after a run.
-/

namespace LogFilter

namespace Operation

/-- The report of a call **that an operation records**, with its project: one whose id is not
taken. -/
def recorded? (store : Store) : Operation → Option (String × CallReport)
  | record projectId call => if store.HasCall call.id then none else some (projectId, call)
  | _ => none

/-- The report of an entry **that an operation adds**: one whose id is not taken. -/
def added? (store : Store) : Operation → Option EntryReport
  | addEntry entry => if store.entries.any (·.id == entry.id) then none else some entry
  | _ => none

end Operation

namespace Store

/-- The calls that are **recorded in a run**, with their projects. -/
def recordedIn (store : Store) : List Operation → List (String × CallReport)
  | [] => []
  | operation :: rest =>
      (operation.recorded? store).toList ++ recordedIn (store.after operation) rest

/-- The entries that are **added in a run**. -/
def addedIn (store : Store) : List Operation → List EntryReport
  | [] => []
  | operation :: rest => (operation.added? store).toList ++ addedIn (store.after operation) rest

variable {store : Store}

/-- What an operation adds to the calls, to their responses and to the entries. -/
structure Adds (store : Store) (operation : Operation) : Prop where
  calls : (store.after operation).calls = store.calls ++
    (operation.recorded? store).toList.map fun report => report.2.toRow report.1
  responses : (store.after operation).responses = store.responses ++
    (operation.recorded? store).toList.flatMap fun report => report.2.responseRow.toList
  entries : (store.after operation).entries = store.entries ++
    (operation.added? store).toList.map EntryReport.toRow

/-- An operation that leaves these tables as they are adds nothing to them. -/
theorem Adds.of_unchanged {operation : Operation}
    (hcalls : (store.after operation).calls = store.calls)
    (hresponses : (store.after operation).responses = store.responses)
    (hentries : (store.after operation).entries = store.entries)
    (hrecorded : operation.recorded? store = none) (hadded : operation.added? store = none) :
    store.Adds operation := by
  constructor <;> simp [hcalls, hresponses, hentries, hrecorded, hadded]

/-- **A record adds the rows of its report**, if its id is not taken. -/
theorem WellFormed.adds_record (h : store.WellFormed) (projectId : String) (call : CallReport) :
    store.Adds (.record projectId call) := by
  have hrecord := h.record_eq projectId call
  by_cases htaken : store.HasCall call.id
  · have hafter : store.after (.record projectId call) = store := by
      rw [Store.after, Operation.attempt, hrecord, if_pos htaken]
    exact .of_unchanged (by rw [hafter]) (by rw [hafter]) (by rw [hafter]) (if_pos htaken) rfl
  · have hafter : store.after (.record projectId call) = store.withCall projectId call := by
      rw [Store.after, Operation.attempt, hrecord, if_neg htaken]
    have hrecorded : (Operation.record projectId call).recorded? store =
        some (projectId, call) := if_neg htaken
    constructor
    · rw [hafter, hrecorded]
      rfl
    · rw [hafter, hrecorded, withCall, Option.toList_some, List.flatMap_singleton]
      dsimp only
      rw [CallReport.responseRow, Option.toList_map]
      rfl
    · rw [hafter]
      exact (List.append_nil _).symm

/-- **A new entry adds its row**, if its id is not taken. -/
theorem adds_addEntry (store : Store) (entry : EntryReport) : store.Adds (.addEntry entry) := by
  by_cases htaken : store.entries.any (·.id == entry.id) = true
  · have hafter : store.after (.addEntry entry) = store := by
      rw [Store.after, Operation.attempt, Store.addEntry, if_pos htaken]
    exact .of_unchanged (by rw [hafter]) (by rw [hafter]) (by rw [hafter]) rfl (if_pos htaken)
  · have hafter : store.after (.addEntry entry) =
        { store with entries := store.entries ++ [entry.toRow] } := by
      rw [Store.after, Operation.attempt, Store.addEntry, if_neg htaken]
    have hadded : (Operation.addEntry entry).added? store = some entry := if_neg htaken
    constructor
    · rw [hafter]
      exact (List.append_nil _).symm
    · rw [hafter]
      exact (List.append_nil _).symm
    · rw [hafter, hadded]
      rfl

/-- **An operation adds the rows of its report**, if it is accepted, and nothing else. -/
theorem WellFormed.adds (h : store.WellFormed) (operation : Operation) : store.Adds operation := by
  cases operation with
  | record projectId call => exact h.adds_record projectId call
  | addEntry entry => exact store.adds_addEntry entry
  | setTag callId name value =>
    have hset : (store.setTag callId name value).1.calls = store.calls ∧
        (store.setTag callId name value).1.responses = store.responses ∧
        (store.setTag callId name value).1.entries = store.entries := by
      rw [Store.setTag]
      split <;> exact ⟨rfl, rfl, rfl⟩
    exact .of_unchanged hset.1 hset.2.1 hset.2.2 rfl rfl
  | removeTag callId name => exact .of_unchanged rfl rfl rfl rfl rfl
  | updateTags statement tags =>
    cases hids : store.fetchIds statement with
    | error e =>
      have hafter : store.after (.updateTags statement tags) = store := by
        rw [Store.after, Operation.attempt, Store.updateTags, hids]
        rfl
      exact .of_unchanged (by rw [hafter]) (by rw [hafter]) (by rw [hafter]) rfl rfl
    | ok ids =>
      have hupdated := h.updatedTo_assignAll tags ids
      have hafter : store.after (.updateTags statement tags) =
          ids.foldl (fun store id => store.assignTags tags.entries id) store := by
        rw [Store.after, attempt_updateTags_eq_ok_iff.mpr ⟨ids, hids, rfl⟩]
      exact .of_unchanged (by rw [hafter, hupdated.calls]) (by rw [hafter, hupdated.responses])
        (by rw [hafter, hupdated.entries]) rfl rfl

/-- **The calls after a run** are those that were there and those that are recorded in it. -/
theorem WellFormed.calls_run (h : store.WellFormed) (operations : List Operation) :
    (store.run operations).calls = store.calls ++
      (store.recordedIn operations).map fun report => report.2.toRow report.1 := by
  induction operations generalizing store with
  | nil => exact (List.append_nil _).symm
  | cons operation rest ih =>
    refine (ih (h.after operation)).trans ?_
    rw [(h.adds operation).calls, recordedIn, List.map_append, List.append_assoc]

/-- **The responses after a run** are those that were there and those of the calls that are
recorded in it. -/
theorem WellFormed.responses_run (h : store.WellFormed) (operations : List Operation) :
    (store.run operations).responses = store.responses ++
      (store.recordedIn operations).flatMap fun report => report.2.responseRow.toList := by
  induction operations generalizing store with
  | nil => exact (List.append_nil _).symm
  | cons operation rest ih =>
    refine (ih (h.after operation)).trans ?_
    rw [(h.adds operation).responses, recordedIn, List.flatMap_append, List.append_assoc]

/-- **The entries after a run** are those that were there and those that are added in it. -/
theorem WellFormed.entries_run (h : store.WellFormed) (operations : List Operation) :
    (store.run operations).entries = store.entries ++
      (store.addedIn operations).map EntryReport.toRow := by
  induction operations generalizing store with
  | nil => exact (List.append_nil _).symm
  | cons operation rest ih =>
    refine (ih (h.after operation)).trans ?_
    rw [(h.adds operation).entries, addedIn, List.map_append, List.append_assoc]

/-- What is recorded in a run was reported in it. -/
theorem mem_of_mem_recordedIn {operations : List Operation} {projectId : String} {call : CallReport}
    (h : (projectId, call) ∈ store.recordedIn operations) :
    .record projectId call ∈ operations := by
  induction operations generalizing store with
  | nil => cases h
  | cons operation rest ih =>
    rcases List.mem_append.mp h with hfirst | hlater
    · cases operation with
      | record project first =>
        rw [Operation.recorded?] at hfirst
        split at hfirst
        · cases hfirst
        · cases List.mem_singleton.mp hfirst
          exact List.mem_cons_self
      | _ => cases hfirst
    · exact List.mem_cons_of_mem _ (ih hlater)

/-- What is added in a run was reported in it. -/
theorem mem_of_mem_addedIn {operations : List Operation} {entry : EntryReport}
    (h : entry ∈ store.addedIn operations) : .addEntry entry ∈ operations := by
  induction operations generalizing store with
  | nil => cases h
  | cons operation rest ih =>
    rcases List.mem_append.mp h with hfirst | hlater
    · cases operation with
      | addEntry first =>
        rw [Operation.added?] at hfirst
        split at hfirst
        · cases hfirst
        · cases List.mem_singleton.mp hfirst
          exact List.mem_cons_self
      | _ => cases hfirst
    · exact List.mem_cons_of_mem _ (ih hlater)

/-- Among the responses of calls with distinct ids, that of a call is found by the id of the call. -/
theorem find?_responseRow {reports : List (String × CallReport)}
    (hids : (reports.map fun report => report.2.id).Nodup) {projectId : String} {call : CallReport}
    (hmem : (projectId, call) ∈ reports) :
    (reports.flatMap fun report => report.2.responseRow.toList).find? (·.callId == call.id) =
      call.responseRow := by
  have hcallId (call : CallReport) : ∀ row ∈ call.responseRow, row.callId = call.id :=
    fun row hrow => (call.responseRow_keys projectId row hrow).1
  induction reports with
  | nil => cases hmem
  | cons first rest ih =>
    obtain ⟨hnew, hrest⟩ := List.nodup_cons.mp hids
    rw [List.flatMap_cons, List.find?_append]
    rcases List.mem_cons.mp hmem with rfl | hlater
    · cases hrow : call.responseRow with
      | some row => simp [hcallId call row hrow]
      | none =>
        have hothers : (rest.flatMap fun report => report.2.responseRow.toList).find?
            (·.callId == call.id) = none := by
          refine List.find?_eq_none.mpr fun row hmem hid => hnew ?_
          obtain ⟨report, hreport, hrow⟩ := List.mem_flatMap.mp hmem
          have hsame := hcallId report.2 row (Option.mem_toList.mp hrow)
          exact List.mem_map.mpr ⟨report, hreport, hsame.symm.trans (beq_iff_eq.mp hid)⟩
        simp [hothers]
    · have hfirst : (first.2.responseRow.toList.find? (·.callId == call.id)) = none := by
        refine List.find?_eq_none.mpr fun row hrow hid => hnew ?_
        have hsame := hcallId first.2 row (Option.mem_toList.mp hrow)
        exact List.mem_map.mpr ⟨_, hlater, (beq_iff_eq.mp hid).symm.trans hsame⟩
      rw [hfirst, Option.none_or]
      exact ih hrest hlater

/-- **The response of a recorded call** is the one that was reported with it. -/
theorem response?_run {engine : Sql.Engine} {operations : List Operation} {projectId : String}
    {call : CallReport} (h : (projectId, call) ∈ (empty engine).recordedIn operations) :
    ((empty engine).run operations).response? call.id = call.responseRow := by
  have hids : (((empty engine).recordedIn operations).map fun report => report.2.id).Nodup := by
    have hcalls := ((WellFormed.empty engine).run operations).callIds
    rw [(WellFormed.empty engine).calls_run, empty, List.nil_append, List.map_map] at hcalls
    exact hcalls
  rw [response?, (WellFormed.empty engine).responses_run]
  exact find?_responseRow hids h

end Store

end LogFilter
