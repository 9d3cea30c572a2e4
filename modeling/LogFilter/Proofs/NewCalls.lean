import LogFilter.Proofs.Atomicity
import LogFilter.Proofs.BulkUpdate

/-!
# Recording New Calls

A record writes a call, its response and its tags, each with statements of their own, and each of
these tables has constraints that could stand in the way: a response has an id that is made of the
id of its call, a call has one response, and it has one tag of a name. Only the id of the call is
asked for beforehand. That this is enough is due to the store invariant. Whatever has been done to
a store before, a response or a tag that could clash with the new rows belongs to a call of the
store, and then this call has the new id; two ids that are made from different ids are different,
even where one of these was itself made to look like the id of a response.

So a record is refused exactly if the id is taken, and otherwise it adds exactly the rows that are
reported: no tag takes the place of another, because no tag of a new call is there yet, and the
names of the tags that are reported are distinct.

## Main definitions

* `Store.MeetsConstraints`: the constraints under which the tables are declared.
* `Store.withCall`: a store with the rows of a reported call.
* `Store.RecordsCall`: what comes of recording a call.

## Main results

* `Store.setTags_of_new`: setting tags that are not there yet adds their rows.
* `Store.WellFormed.record_eq`: what a record makes of a well-formed store.
* `Store.Reachable.recordsCall`: recording a call fails only for an id that is taken.
-/

namespace LogFilter

/-- A tag with a key that is not there yet comes last. -/
theorem putTag_of_new {tag : CallTag} {tags : List CallTag}
    (hnew : ∀ other ∈ tags, other.key ≠ tag.key) : putTag tag tags = tags ++ [tag] := by
  induction tags with
  | nil => rfl
  | cons other rest ih =>
    obtain ⟨hfirst, hrest⟩ := List.forall_mem_cons.mp hnew
    have hother : ¬other.isFor tag.callId tag.name = true :=
      fun hfor => hfirst (CallTag.isFor_iff.mp hfor)
    rw [putTag, if_neg hother, ih hrest, List.cons_append]

namespace Store

variable {store : Store}

/-- Whether some project **has a call** of an id. -/
def HasCall (store : Store) (id : String) : Prop :=
  ∃ call ∈ store.calls, call.id = id

instance (store : Store) (id : String) : Decidable (store.HasCall id) :=
  inferInstanceAs (Decidable (∃ call ∈ store.calls, _))

/-- A call is found by its id exactly if there is one. -/
theorem isSome_call?_iff {id : String} : (store.call? id).isSome = true ↔ store.HasCall id := by
  rw [call?, List.find?_isSome]
  exact exists_congr fun call => and_congr_right fun _ => beq_iff_eq

/-- No call is found by an id that none has. -/
theorem call?_eq_none_iff_not_hasCall {id : String} :
    store.call? id = none ↔ ¬store.HasCall id := by
  rw [← isSome_call?_iff, Bool.not_eq_true, Option.isSome_eq_false_iff, Option.isNone_iff_eq_none]

/-! ### Constraints -/

/-- The **constraints** under which the tables of a store are declared: primary keys, other keys
that are unique, and references to calls. -/
structure MeetsConstraints (store : Store) : Prop where
  callIds : (store.calls.map LoggedCall.id).Nodup
  responseIds : (store.responses.map ModelResponse.id).Nodup
  /-- A call has one response at most. -/
  responseCalls : (store.responses.map ModelResponse.callId).Nodup
  /-- A call has one tag of a name at most. -/
  tagKeys : (store.tags.map CallTag.key).Nodup
  entryIds : (store.entries.map DatasetEntry.id).Nodup
  responseOwners : ∀ response ∈ store.responses, store.HasCall response.callId
  tagOwners : ∀ tag ∈ store.tags, store.HasCall tag.callId

/-- **A well-formed store meets its constraints.** The ids of two responses are different because
they are made of the ids of two calls. -/
theorem WellFormed.meetsConstraints (h : store.WellFormed) : store.MeetsConstraints where
  callIds := h.callIds
  responseIds := by
    have hids : store.responses.map ModelResponse.id =
        (store.responses.map ModelResponse.callId).map (· ++ ":response") := by
      rw [List.map_map]
      exact List.map_congr_left h.responseId
    rw [hids]
    exact h.responseKeys.map fun _ _ hsame => (String.append_left_inj ":response").mp hsame
  responseCalls := h.responseKeys
  tagKeys := h.tagKeys
  entryIds := h.entryIds
  responseOwners := h.responseCall
  tagOwners := fun tag htag =>
    (h.tagCall tag htag).imp fun _ howner => ⟨howner.1, howner.2.1⟩

/-! ### The rows of a call -/

/-- A store with the **rows of a reported call**: one for the call, one for its response if there
is one, and one for each of its tags. What is absent in the report is absent in the rows. -/
def withCall (store : Store) (projectId : String) (call : CallReport) : Store where
  calls := store.calls ++ [⟨call.id, projectId, call.model, call.requestedAt⟩]
  responses := store.responses ++ call.response.toList.map fun response =>
    { id := call.id ++ ":response"
      callId := call.id
      reqPayload := response.reqPayload.compact
      respPayload := response.respPayload.map Json.compact
      statusCode := response.statusCode
      errorMessage := response.errorMessage }
  tags := store.tags ++ call.tags.entries.map fun (name, value) =>
    ⟨call.id, projectId, name, value⟩
  entries := store.entries
  engine := store.engine

/-- **Setting tags that are not there yet** adds a row for each, if their names are distinct. -/
theorem setTags_of_new {call : LoggedCall} {callId : String}
    (hcall : store.call? callId = some call) {tags : List (String × Option String)}
    (hnames : (tags.map Prod.fst).Nodup)
    (hnew : ∀ tag ∈ store.tags, tag.callId = callId → tag.name ∉ tags.map Prod.fst) :
    store.setTags callId tags = { store with
      tags := store.tags ++ tags.map fun (name, value) => ⟨callId, call.projectId, name, value⟩ } := by
  induction tags generalizing store with
  | nil => simp [setTags]
  | cons first rest ih =>
    obtain ⟨name, value⟩ := first
    obtain ⟨hfirst, hrest⟩ := List.nodup_cons.mp hnames
    have hput : putTag ⟨callId, call.projectId, name, value⟩ store.tags =
        store.tags ++ [⟨callId, call.projectId, name, value⟩] := by
      refine putTag_of_new fun other hmem hkey => ?_
      obtain ⟨hid, hname⟩ := Prod.mk.inj hkey
      exact hnew other hmem hid (hname ▸ List.mem_cons_self)
    let added : Store :=
      { store with tags := store.tags ++ [⟨callId, call.projectId, name, value⟩] }
    have hset : (store.setTag callId name value).1 = added := by
      rw [setTag, hcall]
      exact congrArg (fun tags => { store with tags := tags }) hput
    -- The row that is added has the first name, which does not come again.
    have hlater : ∀ tag ∈ added.tags, tag.callId = callId → tag.name ∉ rest.map Prod.fst := by
      intro tag htag hid
      rcases List.mem_append.mp htag with hold | hadded
      · exact fun hmem => hnew tag hold hid (List.mem_cons_of_mem _ hmem)
      · obtain rfl := List.mem_singleton.mp hadded
        exact hfirst
    have hstill : added.call? callId = some call := hcall
    rw [setTags, List.foldl_cons, hset]
    refine (ih hstill hrest hlater).trans ?_
    rw [List.append_assoc, List.singleton_append, List.map_cons]

/-- **What a record makes of a well-formed store**: it is refused if the id is taken, and adds the
rows of the call otherwise. -/
theorem WellFormed.record_eq (h : store.WellFormed) (projectId : String) (call : CallReport) :
    store.record projectId call =
      if store.HasCall call.id then .error (.callExists call.id)
      else .ok (store.withCall projectId call) := by
  split
  · next htaken =>
    obtain ⟨other, hother⟩ := Option.isSome_iff_exists.mp (isSome_call?_iff.mpr htaken)
    rw [Store.record, hother]
  · next hnew =>
    have hnone := call?_eq_none_iff_not_hasCall.mpr hnew
    have hfound : (store.addCall (call.toRow projectId) call.responseRow).call? call.id =
        some (call.toRow projectId) := call?_addCall_self hnone _
    have hfresh : ∀ tag ∈ store.tags, tag.callId = call.id →
        tag.name ∉ call.tags.entries.map Prod.fst := fun tag htag hid =>
      absurd (hid ▸ h.meetsConstraints.tagOwners tag htag) hnew
    refine record_eq_ok_iff.mpr ⟨hnone, ?_⟩
    rw [setTags_of_new hfound call.tags.nodup_names hfresh, withCall, Store.addCall,
      CallReport.responseRow, Option.toList_map]
    rfl

/-- A record of a well-formed store succeeds exactly if the id is not taken, and then it adds the
rows of the call. -/
theorem WellFormed.record_eq_ok_withCall_iff (h : store.WellFormed) {projectId : String}
    {call : CallReport} {next : Store} : store.record projectId call = .ok next ↔
      ¬store.HasCall call.id ∧ next = store.withCall projectId call := by
  rw [h.record_eq]
  split
  · next htaken => exact ⟨nofun, fun hnew => absurd htaken hnew.1⟩
  · next hnew =>
    rw [Except.ok.injEq]
    exact ⟨fun hsame => ⟨hnew, hsame.symm⟩, fun hsame => hsame.2.symm⟩

/-! ### What comes of a record -/

/-- What comes of **recording a call** in a project of a store. -/
structure RecordsCall (store : Store) (projectId : String) (call : CallReport) : Prop where
  /-- The record is a conflict exactly if some project has a call of this id. -/
  conflict : (∃ e, store.record projectId call = .error e ∧ e.kind = .conflict) ↔
    store.HasCall call.id
  /-- There is no other way to fail. -/
  fails : ∀ e, store.record projectId call = .error e → e = .callExists call.id
  /-- If the id is not taken, then the rows of the call are added, and nothing else is changed. -/
  adds : ¬store.HasCall call.id →
    store.record projectId call = .ok (store.withCall projectId call)
  /-- The database does the same, one statement after the other: none of them violates a
  constraint. -/
  written : ∀ db : Database, db.Faultless → Program.Does (db.record projectId call) store
    (if store.HasCall call.id then .error (.callExists call.id)
      else .ok ((), store.withCall projectId call))
  /-- The constraints hold before, and they hold of the new rows as well. -/
  constraints : store.MeetsConstraints ∧
    (¬store.HasCall call.id → (store.withCall projectId call).MeetsConstraints)

/-- **Recording a call fails only for an id that is taken**, in whichever project, and otherwise it
adds the rows of the call and nothing else. No constraint of the tables is ever in its way. -/
theorem Reachable.recordsCall (hstore : store.Reachable) (projectId : String)
    (call : CallReport) : store.RecordsCall projectId call := by
  have h := hstore.wellFormed
  have hrecord := h.record_eq projectId call
  have hadds (hnew : ¬store.HasCall call.id) :
      store.record projectId call = .ok (store.withCall projectId call) :=
    hrecord.trans (if_neg hnew)
  have hfails {e : Error} (herror : store.record projectId call = .error e) :
      store.HasCall call.id ∧ e = .callExists call.id := by
    rw [hrecord] at herror
    split at herror
    · next htaken => exact ⟨htaken, (Except.error.inj herror).symm⟩
    · cases herror
  constructor
  case conflict =>
    constructor
    · rintro ⟨e, herror, -⟩
      exact (hfails herror).1
    · intro htaken
      exact ⟨.callExists call.id, hrecord.trans (if_pos htaken), rfl⟩
  case fails => exact fun e herror => (hfails herror).2
  case adds => exact hadds
  case written =>
    intro db hdb
    have hdoes := Database.does_record hdb h projectId call
    rw [hrecord] at hdoes
    by_cases htaken : store.HasCall call.id
    · rw [if_pos htaken] at hdoes ⊢
      exact hdoes
    · rw [if_neg htaken] at hdoes ⊢
      exact hdoes
  case constraints =>
    exact ⟨h.meetsConstraints, fun hnew => (h.record (hadds hnew)).meetsConstraints⟩

/-- A report of a call whose id is that of the response to another call. -/
def lookalike : CallReport where
  id := "a:response"
  model := none
  requestedAt := Subject.newYear
  response := some ⟨.null, none, none, some "timeout"⟩
  tags := ⟨[("env", none), ("user", some "u")], by decide⟩

/-- A call with the id of a response is recorded with a response and tags of its own. Reported
again, in another project, it is a conflict. -/
theorem recordsCall_lookalike : ∃ next, Subject.twoCalls.record "p" lookalike = .ok next ∧
    next.MeetsConstraints ∧
    next.responses.map ModelResponse.id =
      ["a:response", "b:response", "a:response:response"] ∧
    ∃ e, next.record "q" lookalike = .error e ∧ e.kind = .conflict := by
  have hnew : ¬Subject.twoCalls.HasCall lookalike.id := by decide
  have hfirst := Subject.reachable_twoCalls.recordsCall "p" lookalike
  have hnext : Subject.twoCalls.after (.record "p" lookalike) =
      Subject.twoCalls.withCall "p" lookalike := by
    rw [after, Operation.attempt, hfirst.adds hnew]
  have hreachable := Subject.reachable_twoCalls.after (.record "p" lookalike)
  rw [hnext] at hreachable
  refine ⟨_, hfirst.adds hnew, hfirst.constraints.2 hnew, by decide, ?_⟩
  exact (hreachable.recordsCall "q" lookalike).conflict.mpr (by decide)

end Store

end LogFilter
