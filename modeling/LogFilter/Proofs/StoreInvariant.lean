import LogFilter.Store.Operations
import Mathlib.Data.List.Nodup

/-!
# The Store Invariant

The tables of a store refer to each other by id only, and nothing but the operations keeps
these references in order. This module states what they keep, as `Store.WellFormed`, and
shows that it holds of every store that a run of operations can leave. Queries rely on it:
a left join adds exactly one row because a call has at most one response and at most one tag
of each name, and the tag names of a project are read from the copies of its id in tag rows.

A run mixes operations that succeed with operations that fail. An operation that fails leaves
the store as it was, so the invariant has to be checked for the successful ones only, and a
bulk update is a sequence of single changes whose ids may come from anywhere.

## Main results

* `Store.WellFormed.after`: one operation keeps the invariant.
* `Store.WellFormed.run`: so does every run.
* `Store.run_empty_wellFormed`: the invariant holds after every run from the empty store.
-/

namespace LogFilter

open Sql

/-! ### Runs of operations -/

/-- A **writing operation** on a store, with its arguments. -/
inductive Operation
  | record (projectId : String) (call : CallReport)
  | addEntry (entry : EntryReport)
  | setTag (callId name : String) (value : Option String)
  | removeTag (callId name : String)
  | updateTags (statement : Statement) (tags : NameMap (Option String))

/-- The store that an operation makes of a store, unless it fails. -/
def Operation.attempt (store : Store) : Operation → Except Error Store
  | record projectId call => store.record projectId call
  | addEntry entry => store.addEntry entry
  | setTag callId name value => .ok (store.setTag callId name value).1
  | removeTag callId name => .ok (store.removeTag callId name).1
  | updateTags statement tags => (store.updateTags statement tags).map Prod.fst

namespace Store

/-- The store **after an operation**; one that fails changes nothing. -/
def after (store : Store) (operation : Operation) : Store :=
  match operation.attempt store with
  | .ok next => next
  | .error _ => store

/-- The store after a **run** of operations. -/
def run (store : Store) (operations : List Operation) : Store :=
  operations.foldl after store

/-- A store is **reachable** if some run of operations leads to it from the empty store, with
whatever engine. -/
def Reachable (store : Store) : Prop :=
  ∃ engine operations, (empty engine).run operations = store

end Store

/-! ### The invariant -/

/-- What identifies a tag: its call and its name. -/
def CallTag.key (tag : CallTag) : String × String := (tag.callId, tag.name)

/-- The **store invariant**: ids are unique, responses and tags belong to calls of the store,
and no call has two responses or two tags of one name. -/
structure Store.WellFormed (store : Store) : Prop where
  /-- No two logged calls have one id, in whatever projects. -/
  callIds : (store.calls.map LoggedCall.id).Nodup
  /-- No two dataset entries have one id, in whatever datasets. -/
  entryIds : (store.entries.map DatasetEntry.id).Nodup
  /-- A response belongs to a call. -/
  responseCall : ∀ response ∈ store.responses, ∃ call ∈ store.calls, call.id = response.callId
  /-- A call has at most one response. -/
  responseKeys : (store.responses.map ModelResponse.callId).Nodup
  /-- The id of a response is made of the id of its call. -/
  responseId : ∀ response ∈ store.responses, response.id = response.callId ++ ":response"
  /-- A tag belongs to a call and has the project of that call. -/
  tagCall : ∀ tag ∈ store.tags,
    ∃ call ∈ store.calls, call.id = tag.callId ∧ call.projectId = tag.projectId
  /-- A call has at most one tag of a name. -/
  tagKeys : (store.tags.map CallTag.key).Nodup

/-- A tag is for a call and a name exactly when these are its key. -/
theorem CallTag.isFor_iff {callId name : String} {tag : CallTag} :
    tag.isFor callId name = true ↔ tag.key = (callId, name) := by
  simp [CallTag.isFor, CallTag.key]

/-! ### Putting a tag among others -/

/-- A tag that is put takes the place of the tag with its key, or comes last. -/
theorem map_key_putTag (tag : CallTag) (tags : List CallTag) :
    (putTag tag tags).map CallTag.key =
      if tag.key ∈ tags.map CallTag.key then tags.map CallTag.key
      else tags.map CallTag.key ++ [tag.key] := by
  induction tags with
  | nil => simp [putTag]
  | cons other rest ih =>
    by_cases h : other.isFor tag.callId tag.name = true
    · have hkey : other.key = tag.key := CallTag.isFor_iff.mp h
      have hsame : CallTag.key { other with value := tag.value } = other.key := rfl
      simp [putTag, h, hkey, hsame]
    · have hkey : ¬tag.key = other.key := fun heq => h (CallTag.isFor_iff.mpr heq.symm)
      simp only [putTag, h, Bool.false_eq_true, if_false, List.map_cons, ih, List.mem_cons, hkey,
        false_or]
      split <;> simp

/-- Putting a tag keeps keys unique. -/
theorem nodup_key_putTag (tag : CallTag) {tags : List CallTag}
    (h : (tags.map CallTag.key).Nodup) : ((putTag tag tags).map CallTag.key).Nodup := by
  rw [map_key_putTag]
  split
  · exact h
  · next hnew => simpa only [List.concat_eq_append] using h.concat hnew

/-- A tag among which another was put has the call and the project of that one, or of one
that was there before. -/
theorem mem_putTag {tag t : CallTag} {tags : List CallTag} (h : t ∈ putTag tag tags) :
    t = tag ∨ ∃ other ∈ tags, other.callId = t.callId ∧ other.projectId = t.projectId := by
  induction tags with
  | nil => exact .inl (List.mem_singleton.mp h)
  | cons other rest ih =>
    rw [putTag] at h
    split at h
    · rcases List.mem_cons.mp h with rfl | hrest
      · exact .inr ⟨other, List.mem_cons_self, rfl, rfl⟩
      · exact .inr ⟨t, List.mem_cons_of_mem _ hrest, rfl, rfl⟩
    · rcases List.mem_cons.mp h with rfl | hrest
      · exact .inr ⟨t, List.mem_cons_self, rfl, rfl⟩
      · rcases ih hrest with rfl | ⟨old, hold, hsame⟩
        · exact .inl rfl
        · exact .inr ⟨old, List.mem_cons_of_mem _ hold, hsame⟩

/-! ### Single changes keep the invariant -/

/-- The row of a reported call in a project. -/
def CallReport.toRow (call : CallReport) (projectId : String) : LoggedCall :=
  ⟨call.id, projectId, call.model, call.requestedAt⟩

/-- The row of the response to a reported call, if it has one. -/
def CallReport.responseRow (call : CallReport) : Option ModelResponse :=
  call.response.map fun response => response.toRow call.id

/-- The response to a reported call belongs to it and has an id made of its id. -/
theorem CallReport.responseRow_keys (call : CallReport) (projectId : String) :
    ∀ response ∈ call.responseRow, response.callId = (call.toRow projectId).id ∧
      response.id = (call.toRow projectId).id ++ ":response" := by
  intro response hresponse
  obtain ⟨reported, -, rfl⟩ := Option.map_eq_some_iff.mp hresponse
  exact ⟨rfl, rfl⟩

/-- A row with a new key can come last among rows with unique keys. -/
theorem nodup_map_append_singleton {α β : Type} {f : α → β} {rows : List α} {row : α}
    (h : (rows.map f).Nodup) (hnew : ∀ other ∈ rows, f other ≠ f row) :
    ((rows ++ [row]).map f).Nodup := by
  rw [List.map_append, List.map_singleton, ← List.concat_eq_append]
  refine h.concat fun hmem => ?_
  obtain ⟨other, hother, heq⟩ := List.mem_map.mp hmem
  exact hnew other hother heq

namespace Store

/-- A call that is found is in the table and has the id looked for. -/
theorem call?_eq_some {store : Store} {id : String} {call : LoggedCall}
    (h : store.call? id = some call) : call ∈ store.calls ∧ call.id = id :=
  ⟨List.mem_of_find?_eq_some h, by simpa using List.find?_some h⟩

/-- No call is found exactly when none has the id. -/
theorem call?_eq_none_iff {store : Store} {id : String} :
    store.call? id = none ↔ ∀ call ∈ store.calls, call.id ≠ id := by
  simp [call?]

/-- The store with one more call, and a response to it if there is one. -/
def addCall (store : Store) (call : LoggedCall) (response : Option ModelResponse) : Store :=
  { store with
    calls := store.calls ++ [call]
    responses := store.responses ++ response.toList }

/-- A call with a new id is found once it is added. -/
theorem call?_addCall_self {store : Store} {call : LoggedCall}
    (hnew : store.call? call.id = none) (response : Option ModelResponse) :
    (store.addCall call response).call? call.id = some call := by
  rw [addCall, call?, List.find?_append, ← call?, hnew, Option.none_or]
  exact List.find?_cons_of_pos BEq.rfl

/-- A call is recorded exactly if its id is not taken, and then with its response and tags. -/
theorem record_eq_ok_iff {store next : Store} {projectId : String} {call : CallReport} :
    store.record projectId call = .ok next ↔ store.call? call.id = none ∧
      next = (store.addCall (call.toRow projectId) call.responseRow).setTags call.id
        call.tags.entries := by
  unfold record
  cases hcall : store.call? call.id with
  | some taken => simp
  | none =>
    simp only [Except.ok.injEq, true_and, addCall, CallReport.toRow, CallReport.responseRow,
      Option.toList_map]
    exact eq_comm

/-- A bulk update succeeds exactly when its statement does, and makes the assignments to the
ids that were selected before. -/
theorem updateTags_eq_ok_iff {store : Store} {statement : Statement}
    {tags : NameMap (Option String)} {result : Store × Nat} :
    store.updateTags statement tags = .ok result ↔ ∃ ids, store.fetchIds statement = .ok ids ∧
      result = (ids.foldl (fun store id => store.assignTags tags.entries id) store,
        ids.length) := by
  unfold Store.updateTags
  cases store.fetchIds statement with
  | error e => exact ⟨nofun, nofun⟩
  | ok ids =>
    constructor
    · rintro ⟨⟩
      exact ⟨ids, rfl, rfl⟩
    · rintro ⟨_, ⟨⟩, rfl⟩
      rfl

/-- A bulk update of a run leaves the assignments to the ids that its statement selects. -/
theorem attempt_updateTags_eq_ok_iff {store next : Store} {statement : Statement}
    {tags : NameMap (Option String)} :
    (Operation.updateTags statement tags).attempt store = .ok next ↔
      ∃ ids, store.fetchIds statement = .ok ids ∧
        next = ids.foldl (fun store id => store.assignTags tags.entries id) store := by
  rw [Operation.attempt]
  constructor
  · intro h
    cases hupdate : store.updateTags statement tags with
    | error e => rw [hupdate] at h; cases h
    | ok result =>
      rw [hupdate] at h
      cases h
      obtain ⟨ids, hids, rfl⟩ := updateTags_eq_ok_iff.mp hupdate
      exact ⟨ids, hids, rfl⟩
  · rintro ⟨ids, hids, rfl⟩
    rw [updateTags_eq_ok_iff.mpr ⟨ids, hids, rfl⟩]
    rfl

namespace WellFormed

variable {store : Store}

/-- The store without rows is well formed. -/
theorem empty (engine : Engine) : (Store.empty engine).WellFormed := by
  constructor <;> simp [Store.empty]

/-- Setting a tag keeps the invariant: the new row has the project of its call. -/
theorem setTag (h : store.WellFormed) (callId name : String) (value : Option String) :
    (store.setTag callId name value).1.WellFormed := by
  cases hcall : store.call? callId with
  | none => simpa [Store.setTag, hcall] using h
  | some call =>
    obtain ⟨hmem, hid⟩ := call?_eq_some hcall
    simp only [Store.setTag, hcall]
    refine { h with tagCall := fun tag htag => ?_, tagKeys := nodup_key_putTag _ h.tagKeys }
    rcases mem_putTag htag with rfl | ⟨old, hold, hcallId, hproject⟩
    · exact ⟨call, hmem, hid, rfl⟩
    · rw [← hcallId, ← hproject]
      exact h.tagCall old hold

/-- Removing a tag keeps the invariant. -/
theorem removeTag (h : store.WellFormed) (callId name : String) :
    (store.removeTag callId name).1.WellFormed where
  callIds := h.callIds
  entryIds := h.entryIds
  responseCall := h.responseCall
  responseKeys := h.responseKeys
  responseId := h.responseId
  tagCall := fun tag htag => h.tagCall tag (List.mem_filter.mp htag).1
  tagKeys := h.tagKeys.sublist (List.filter_sublist.map _)

/-- Changes that keep the invariant keep it one after the other. -/
theorem foldl {α : Type} {change : Store → α → Store}
    (hchange : ∀ {store : Store}, store.WellFormed → ∀ step, (change store step).WellFormed)
    (h : store.WellFormed) (steps : List α) : (steps.foldl change store).WellFormed := by
  induction steps generalizing store with
  | nil => exact h
  | cons step rest ih => exact ih (hchange h step)

/-- Setting several tags of one call keeps the invariant. -/
theorem setTags (h : store.WellFormed) (callId : String)
    (tags : List (String × Option String)) : (store.setTags callId tags).WellFormed :=
  foldl (fun hstore tag => hstore.setTag callId tag.1 tag.2) h tags

/-- An assignment sets or removes one tag, so it keeps the invariant. -/
theorem assignTag (h : store.WellFormed) (callId : String)
    (assignment : String × Option String) : (store.assignTag callId assignment).WellFormed := by
  unfold Store.assignTag
  split
  · exact h.setTag callId assignment.1 _
  · exact h.removeTag callId assignment.1

/-- Several assignments to one call keep the invariant. -/
theorem assignTags (h : store.WellFormed) (assignments : List (String × Option String))
    (callId : String) : (store.assignTags assignments callId).WellFormed :=
  foldl (fun hstore assignment => hstore.assignTag callId assignment) h assignments

/-- Assignments to a list of ids keep the invariant, whatever the ids are. -/
theorem assignAll (h : store.WellFormed) (assignments : List (String × Option String))
    (ids : List String) :
    (ids.foldl (fun store id => store.assignTags assignments id) store).WellFormed :=
  foldl (fun hstore id => hstore.assignTags assignments id) h ids

/-! ### Operations keep the invariant -/

/-- A new call, with its response if it has one, keeps the invariant: nothing refers to its id
yet. -/
theorem addCall (h : store.WellFormed) (call : LoggedCall)
    (hnew : ∀ other ∈ store.calls, other.id ≠ call.id) (response : Option ModelResponse)
    (hresponse : ∀ r ∈ response, r.callId = call.id ∧ r.id = call.id ++ ":response") :
    (store.addCall call response).WellFormed where
  callIds := nodup_map_append_singleton h.callIds hnew
  entryIds := h.entryIds
  responseCall := by
    intro r hr
    rcases List.mem_append.mp hr with hold | hmem
    · obtain ⟨owner, howner, hid⟩ := h.responseCall r hold
      exact ⟨owner, List.mem_append_left _ howner, hid⟩
    · have hcall : call ∈ store.calls ++ [call] := List.mem_append_right _ List.mem_cons_self
      exact ⟨call, hcall, (hresponse r (Option.mem_toList.mp hmem)).1.symm⟩
  responseKeys := by
    cases response with
    | none => simpa [Store.addCall] using h.responseKeys
    | some r =>
      refine nodup_map_append_singleton h.responseKeys fun other hother heq => ?_
      obtain ⟨owner, howner, hid⟩ := h.responseCall other hother
      exact hnew owner howner (hid.trans (heq.trans (hresponse r rfl).1))
  responseId := by
    intro r hr
    rcases List.mem_append.mp hr with hold | hmem
    · exact h.responseId r hold
    · obtain ⟨hcall, hid⟩ := hresponse r (Option.mem_toList.mp hmem)
      rw [hcall, hid]
  tagCall := by
    intro tag htag
    obtain ⟨owner, howner, hkeys⟩ := h.tagCall tag htag
    exact ⟨owner, List.mem_append_left _ howner, hkeys⟩
  tagKeys := h.tagKeys

/-- Recording a call keeps the invariant. -/
theorem record (h : store.WellFormed) {projectId : String} {call : CallReport} {next : Store}
    (hnext : store.record projectId call = .ok next) : next.WellFormed := by
  obtain ⟨hnone, rfl⟩ := record_eq_ok_iff.mp hnext
  have hadd := h.addCall (call.toRow projectId) (call?_eq_none_iff.mp hnone) call.responseRow
    (call.responseRow_keys projectId)
  exact hadd.setTags call.id call.tags.entries

/-- Adding a dataset entry keeps the invariant. -/
theorem addEntry (h : store.WellFormed) {entry : EntryReport} {next : Store}
    (hnext : store.addEntry entry = .ok next) : next.WellFormed := by
  unfold Store.addEntry at hnext
  split at hnext
  · cases hnext
  · next hnew =>
    cases hnext
    refine { h with entryIds := nodup_map_append_singleton h.entryIds fun other hother heq => ?_ }
    exact hnew (List.any_eq_true.mpr ⟨other, hother, beq_iff_eq.mpr heq⟩)

/-- A bulk update keeps the invariant, whatever the ids that its statement selects. -/
theorem updateTags (h : store.WellFormed) {statement : Statement}
    {tags : NameMap (Option String)} {result : Store × Nat}
    (hresult : store.updateTags statement tags = .ok result) : result.1.WellFormed := by
  obtain ⟨ids, -, rfl⟩ := updateTags_eq_ok_iff.mp hresult
  exact h.assignAll tags.entries ids

/-- **One operation keeps the invariant**, whether it succeeds or fails. -/
theorem after (h : store.WellFormed) (operation : Operation) :
    (store.after operation).WellFormed := by
  unfold Store.after
  cases hattempt : operation.attempt store with
  | error e => exact h
  | ok next =>
    cases operation with
    | record projectId call => exact h.record hattempt
    | addEntry entry => exact h.addEntry hattempt
    | setTag callId name value => cases hattempt; exact h.setTag callId name value
    | removeTag callId name => cases hattempt; exact h.removeTag callId name
    | updateTags statement tags =>
      obtain ⟨ids, -, rfl⟩ := attempt_updateTags_eq_ok_iff.mp hattempt
      exact h.assignAll tags.entries ids

/-- **A run keeps the invariant.** -/
theorem run (h : store.WellFormed) (operations : List Operation) :
    (store.run operations).WellFormed :=
  foldl (fun hstore operation => hstore.after operation) h operations

end WellFormed

/-- What an operation makes of a reachable store can be reached. -/
theorem Reachable.after {store : Store} (h : store.Reachable) (operation : Operation) :
    (store.after operation).Reachable := by
  obtain ⟨engine, operations, rfl⟩ := h
  exact ⟨engine, operations ++ [operation], List.foldl_append⟩

/-- Every reachable store is well formed. -/
theorem Reachable.wellFormed {store : Store} (h : store.Reachable) : store.WellFormed := by
  obtain ⟨engine, operations, rfl⟩ := h
  exact (WellFormed.empty engine).run operations

/-- **The invariant holds after every run** from the empty store, with whatever engine: of calls
and entries no two have one id, every response and every tag belongs to a call of the store and
repeats what it must of it, and no call has two responses or two tags of one name. -/
theorem run_empty_wellFormed (engine : Engine) (operations : List Operation) :
    ((empty engine).run operations).WellFormed :=
  (WellFormed.empty engine).run operations

end Store

end LogFilter
