import LogFilter.Proofs.NewCalls
import LogFilter.Proofs.StrictPolicy

/-!
# The Last Write Wins

Four operations write to the tags of a store: records, changes of a single tag, removals, and bulk
updates. Which of them had an effect on a given tag depends on the store at its time, because
writes to a call that is not there leave no trace, a record may be refused and a bulk update may
fail, or select other calls. This module says when an operation writes a tag of a call, and what;
one operation then leaves either what it has written or what was there, and after a whole run the
tag is what the last operation that wrote it has written. There is no tag before the first of them.

A tag that was written without a value is a tag, and not the same as none.

## Main definitions

* `Operation.Writes`: whether an operation writes a tag of a call, and what.
* `Store.Quiet`: whether no operation of a run writes a tag.
* `Store.LastWritten`: what was last written to a tag in a run from the empty store.
* `Store.LastWriteWins`: what the tags are after a run, and what is answered about them.

## Main results

* `Operation.Writes.tagValue?_after`, `Store.WellFormed.tagValue?_after_of_not_writes`: what one
  operation leaves.
* `Store.WellFormed.tagValue?_run_of_quiet`: a run in which a tag is not written leaves it.
* `Store.tagValue?_run_iff`: a tag is what was last written to it.
* `Store.lastWriteWins`: the tags after a run, and the answers about them.
-/

namespace LogFilter

/-- What an operation **writes** to the tag of a call and a name, if it does so in a store: a tag
with a value, a tag without one, or no tag. -/
inductive Operation.Writes (store : Store) (callId name : String) :
    Operation → Option (Option String) → Prop
  /-- A record writes the tags of the new call. -/
  | record {projectId : String} {call : CallReport} {next : Store} {value : Option String} :
      store.record projectId call = .ok next → call.id = callId →
      call.tags.find? name = some value →
      Writes store callId name (.record projectId call) (some value)
  /-- A tag of a call is set. -/
  | setTag {value : Option String} : store.HasCall callId →
      Writes store callId name (.setTag callId name value) (some value)
  /-- A tag of a call is removed. -/
  | removeTag : store.HasCall callId → Writes store callId name (.removeTag callId name) none
  /-- A bulk update that selects the call sets the tags that have values and removes those that
  have none. -/
  | updateTags {statement : Sql.Statement} {tags : NameMap (Option String)} {ids : List String}
      {value : Option String} : store.HasCall callId → store.fetchIds statement = .ok ids →
      callId ∈ ids → tags.find? name = some value →
      Writes store callId name (.updateTags statement tags) (value.map some)

namespace Store

variable {store : Store} {callId name : String}

/-! ### Single changes -/

/-- There is a tag exactly if some row is for it. -/
theorem tagValue?_ne_none_iff : store.tagValue? callId name ≠ none ↔
    ∃ tag ∈ store.tags, tag.callId = callId ∧ tag.name = name := by
  rw [← Option.isSome_iff_ne_none, tagValue?, Option.isSome_map, List.find?_isSome]
  refine exists_congr fun tag => and_congr_right fun _ => ?_
  rw [CallTag.isFor, Bool.and_eq_true, beq_iff_eq, beq_iff_eq]

/-- An id that is of no call has no tags. -/
theorem WellFormed.tagValue?_of_not_hasCall (h : store.WellFormed)
    (hnone : ¬store.HasCall callId) (name : String) : store.tagValue? callId name = none :=
  Option.map_eq_none_iff.mpr
    (h.tag?_of_call?_eq_none (call?_eq_none_iff_not_hasCall.mpr hnone) name)

/-- Setting a tag of no call changes nothing. -/
theorem setTag_of_not_hasCall (hnone : ¬store.HasCall callId) (name : String)
    (value : Option String) : store.setTag callId name value = (store, false) := by
  rw [setTag, call?_eq_none_iff_not_hasCall.mpr hnone]

/-- A tag of a call that is set has the value to which it was set. -/
theorem tagValue?_setTag_self (hcall : store.HasCall callId) (name : String)
    (value : Option String) :
    (store.setTag callId name value).1.tagValue? callId name = some value := by
  obtain ⟨call, hfound⟩ := Option.isSome_iff_exists.mp (isSome_call?_iff.mpr hcall)
  rw [setTag, hfound]
  exact congrArg (Option.map CallTag.value)
    (find?_putTag_self ⟨callId, call.projectId, name, value⟩ store.tags)

/-- The flag of setting a tag tells whether there is such a call. -/
theorem setTag_flag_iff {value : Option String} :
    (store.setTag callId name value).2 = true ↔ store.HasCall callId := by
  rw [← isSome_call?_iff, setTag]
  cases store.call? callId <;> simp

/-- The flag of removing a tag tells whether there was one. -/
theorem removeTag_flag_iff :
    (store.removeTag callId name).2 = true ↔ store.tagValue? callId name ≠ none := by
  rw [removeTag, List.any_eq_true, ← Option.isSome_iff_ne_none, tagValue?, Option.isSome_map,
    List.find?_isSome]

/-- Of the rows of a new call, the one of a name has the value under this name. -/
theorem find?_map_entries (projectId : String) (tags : List (String × Option String)) :
    ((tags.map fun (name, value) => (⟨callId, projectId, name, value⟩ : CallTag)).find?
        (CallTag.isFor callId name)).map CallTag.value = tags.lookup name := by
  induction tags with
  | nil => rfl
  | cons first rest ih =>
    obtain ⟨first, value⟩ := first
    by_cases hname : name = first
    · subst hname
      simp [CallTag.isFor]
    · have hother : CallTag.isFor callId name ⟨callId, projectId, first, value⟩ = false := by
        simp [CallTag.isFor, Ne.symm hname]
      rw [List.map_cons, List.find?_cons, hother, List.lookup_cons, beq_eq_false_iff_ne.mpr hname]
      exact ih

/-- **After a record** the new call has the tags of the report, and all others are as before. -/
theorem WellFormed.tagValue?_withCall (h : store.WellFormed) (projectId : String)
    {call : CallReport} (hnew : ¬store.HasCall call.id) (callId name : String) :
    (store.withCall projectId call).tagValue? callId name =
      if call.id = callId then call.tags.find? name else store.tagValue? callId name := by
  rw [tagValue?, withCall, List.find?_append, ← tag?]
  split
  · next hid =>
    subst hid
    have hnone := call?_eq_none_iff_not_hasCall.mpr hnew
    rw [h.tag?_of_call?_eq_none hnone, Option.none_or]
    exact find?_map_entries projectId call.tags.entries
  · next hid =>
    have hothers : (call.tags.entries.map fun (name, value) =>
        (⟨call.id, projectId, name, value⟩ : CallTag)).find? (CallTag.isFor callId name) = none := by
      refine List.find?_eq_none.mpr fun tag hmem hfor => ?_
      obtain ⟨entry, -, rfl⟩ := List.mem_map.mp hmem
      exact hid (congrArg Prod.fst (CallTag.isFor_iff.mp hfor))
    rw [hothers, Option.or_none, tagValue?, ← tag?]

end Store

/-! ### One operation -/

/-- **An operation that writes a tag** leaves what it has written. -/
theorem Operation.Writes.tagValue?_after {store : Store} {callId name : String}
    {operation : Operation} {state : Option (Option String)} (h : store.WellFormed)
    (hwrites : operation.Writes store callId name state) :
    (store.after operation).tagValue? callId name = state := by
  cases hwrites with
  | @record projectId call next value hrecord hid hfind =>
    obtain ⟨hnew, rfl⟩ := h.record_eq_ok_withCall_iff.mp hrecord
    rw [Store.after, Operation.attempt, hrecord]
    exact (h.tagValue?_withCall projectId hnew callId name).trans ((if_pos hid).trans hfind)
  | @setTag value hcall => exact Store.tagValue?_setTag_self hcall name value
  | removeTag =>
    exact Option.map_eq_none_iff.mpr (store.tag?_removeTag_self callId name)
  | @updateTags statement tags ids value hcall hids hmem hfind =>
    have hupdated := h.updatedTo_assignAll tags ids
    obtain ⟨call, hcall, rfl⟩ := hcall
    rw [Store.after, Store.attempt_updateTags_eq_ok_iff.mpr ⟨ids, hids, rfl⟩]
    cases value with
    | none => exact Option.map_eq_none_iff.mpr (hupdated.removed hmem hfind)
    | some value =>
      exact congrArg (Option.map CallTag.value) (hupdated.assigned hcall hmem hfind)

namespace Store

variable {engine : Sql.Engine} {store : Store} {callId name : String} {operation : Operation}
  {operations : List Operation} {state : Option (Option String)}

/-- **An operation that does not write a tag** leaves it as it was. -/
theorem WellFormed.tagValue?_after_of_not_writes (h : store.WellFormed)
    (hnot : ∀ state, ¬operation.Writes store callId name state) :
    (store.after operation).tagValue? callId name = store.tagValue? callId name := by
  rw [Store.after]
  cases hattempt : operation.attempt store with
  | error e => rfl
  | ok next =>
    cases operation with
    | record projectId call =>
      obtain ⟨hnew, rfl⟩ := h.record_eq_ok_withCall_iff.mp hattempt
      refine (h.tagValue?_withCall projectId hnew callId name).trans ?_
      split
      · next hid =>
        -- The report has no tag of this name, or the record would write it.
        rw [h.tagValue?_of_not_hasCall (hid ▸ hnew)]
        cases hfind : call.tags.find? name with
        | none => rfl
        | some value => exact absurd (.record hattempt hid hfind) (hnot (some value))
      · rfl
    | addEntry entry =>
      rw [Operation.attempt, Store.addEntry] at hattempt
      split at hattempt <;> cases hattempt
      rfl
    | setTag id first value =>
      cases hattempt
      by_cases hkey : (id, first) = (callId, name)
      · obtain ⟨rfl, rfl⟩ := Prod.mk.inj hkey
        rw [setTag_of_not_hasCall fun hcall => hnot (some value) (.setTag hcall)]
      · exact congrArg (Option.map CallTag.value) (tag?_setTag_of_ne hkey value)
    | removeTag id first =>
      cases hattempt
      by_cases hkey : (id, first) = (callId, name)
      · obtain ⟨rfl, rfl⟩ := Prod.mk.inj hkey
        rw [h.tagValue?_of_not_hasCall fun hcall => hnot none (.removeTag hcall)]
        exact Option.map_eq_none_iff.mpr (store.tag?_removeTag_self id first)
      · exact congrArg (Option.map CallTag.value) (tag?_removeTag_of_ne hkey)
    | updateTags statement tags =>
      obtain ⟨ids, hids, rfl⟩ := attempt_updateTags_eq_ok_iff.mp hattempt
      have hupdated := h.updatedTo_assignAll tags ids
      refine congrArg (Option.map CallTag.value) (hupdated.kept ?_)
      cases hfind : tags.find? name with
      | none => exact .inl rfl
      | some value =>
        by_cases hmem : callId ∈ ids
        · refine .inr (.inr fun call hcall hid => ?_)
          exact hnot _ (.updateTags ⟨call, hcall, hid⟩ hids hmem hfind)
        · exact .inr (.inl hmem)

/-! ### Runs -/

/-- Whether a run is **quiet** about a tag: none of its operations writes it. -/
def Quiet (store : Store) (operations : List Operation) (callId name : String) : Prop :=
  ∀ before operation after, operations = before ++ operation :: after →
    ∀ state, ¬operation.Writes (store.run before) callId name state

/-- A run is quiet if its first operation does not write the tag and the others are quiet. -/
theorem quiet_cons_iff :
    store.Quiet (operation :: operations) callId name ↔
      (∀ state, ¬operation.Writes store callId name state) ∧
        (store.after operation).Quiet operations callId name := by
  constructor
  · intro h
    refine ⟨h [] operation operations rfl, fun before later after hsplit => ?_⟩
    exact h (operation :: before) later after (congrArg (operation :: ·) hsplit)
  · rintro ⟨hfirst, hrest⟩ before later after hsplit
    cases before with
    | nil =>
      obtain ⟨rfl, rfl⟩ := List.cons.inj hsplit
      exact hfirst
    | cons first before =>
      obtain ⟨rfl, rfl⟩ := List.cons.inj hsplit
      exact hrest before later after rfl

/-- **A quiet run leaves the tag** as it was. -/
theorem WellFormed.tagValue?_run_of_quiet (h : store.WellFormed)
    (hquiet : store.Quiet operations callId name) :
    (store.run operations).tagValue? callId name = store.tagValue? callId name := by
  induction operations generalizing store with
  | nil => rfl
  | cons operation rest ih =>
    obtain ⟨hfirst, hrest⟩ := quiet_cons_iff.mp hquiet
    exact (ih (h.after operation) hrest).trans (h.tagValue?_after_of_not_writes hfirst)

/-- A run that is not quiet has a last operation that writes the tag. -/
theorem quiet_or_exists_last (store : Store) (operations : List Operation)
    (callId name : String) : store.Quiet operations callId name ∨
      ∃ before operation after state, operations = before ++ operation :: after ∧
        operation.Writes (store.run before) callId name state ∧
        ((store.run before).after operation).Quiet after callId name := by
  induction operations generalizing store with
  | nil => exact .inl fun before operation after hsplit => by simp at hsplit
  | cons operation rest ih =>
    rcases ih (store.after operation) with hquiet |
      ⟨before, last, after, state, rfl, hwrites, hquiet⟩
    · by_cases hfirst : ∃ state, operation.Writes store callId name state
      · obtain ⟨state, hwrites⟩ := hfirst
        exact .inr ⟨[], operation, rest, state, rfl, hwrites, hquiet⟩
      · exact .inl (quiet_cons_iff.mpr ⟨not_exists.mp hfirst, hquiet⟩)
    · exact .inr ⟨operation :: before, last, after, state, rfl, hwrites, hquiet⟩

/-- What was **last written** to a tag in a run from the empty store: what the operation wrote
after which the run is quiet, or no tag if all of the run is quiet. -/
def LastWritten (engine : Sql.Engine) (operations : List Operation) (callId name : String)
    (state : Option (Option String)) : Prop :=
  (∃ before operation after, operations = before ++ operation :: after ∧
    operation.Writes ((empty engine).run before) callId name state ∧
    (((empty engine).run before).after operation).Quiet after callId name) ∨
  (empty engine).Quiet operations callId name ∧ state = none

/-- A tag is what was last written to it: the operation leaves it so, and the rest of the run is
quiet. -/
theorem LastWritten.tagValue?_run (hlast : LastWritten engine operations callId name state) :
    ((empty engine).run operations).tagValue? callId name = state := by
  rcases hlast with ⟨before, operation, after, rfl, hwrites, hquiet⟩ | ⟨hquiet, rfl⟩
  · have h := (WellFormed.empty engine).run before
    have hrun : (empty engine).run (before ++ operation :: after) =
        (((empty engine).run before).after operation).run after := List.foldl_append
    rw [hrun, (h.after operation).tagValue?_run_of_quiet hquiet]
    exact hwrites.tagValue?_after h
  · exact (WellFormed.empty engine).tagValue?_run_of_quiet hquiet

/-- Something was last written to every tag, if only that there is none. -/
theorem exists_lastWritten (engine : Sql.Engine) (operations : List Operation) (callId name : String) :
    ∃ state, LastWritten engine operations callId name state := by
  rcases (empty engine).quiet_or_exists_last operations callId name with hquiet |
    ⟨before, operation, after, state, hsplit, hwrites, hquiet⟩
  · exact ⟨none, .inr ⟨hquiet, rfl⟩⟩
  · exact ⟨state, .inl ⟨before, operation, after, hsplit, hwrites, hquiet⟩⟩

/-- **After a run a tag is what was last written to it**, and nothing else was. -/
theorem tagValue?_run_iff : ((empty engine).run operations).tagValue? callId name = state ↔
    LastWritten engine operations callId name state := by
  refine ⟨?_, LastWritten.tagValue?_run⟩
  rintro rfl
  obtain ⟨state, hlast⟩ := exists_lastWritten engine operations callId name
  rw [hlast.tagValue?_run]
  exact hlast

/-- What the tags **are after a run**, and what is answered about them. -/
structure LastWriteWins (engine : Sql.Engine) (operations : List Operation) : Prop where
  /-- A tag is what was last written to it. -/
  value : ∀ callId name state, ((empty engine).run operations).tagValue? callId name = state ↔
    LastWritten engine operations callId name state
  /-- Setting a tag tells whether there is such a call. -/
  set : ∀ callId name value, (((empty engine).run operations).setTag callId name value).2 = true ↔
    ((empty engine).run operations).HasCall callId
  /-- Removing a tag tells whether there was such a tag. -/
  remove : ∀ callId name, (((empty engine).run operations).removeTag callId name).2 = true ↔
    ((empty engine).run operations).tagValue? callId name ≠ none
  /-- The tag names of a project are the names of the tags that its calls have. -/
  names : ∀ projectId name,
    (((empty engine).run operations).tagNames projectId).contains name = true ↔
      ∃ call ∈ ((empty engine).run operations).calls, call.projectId = projectId ∧
        ((empty engine).run operations).tagValue? call.id name ≠ none

/-- **The last write wins**: after every run from the empty store, with any engine, every tag is
what the last operation that wrote it has written, and there is none if there was no such
operation. The answers of single changes and the tag names of projects agree with that. -/
theorem lastWriteWins (engine : Sql.Engine) (operations : List Operation) :
    LastWriteWins engine operations where
  value := fun _ _ _ => tagValue?_run_iff
  set := fun _ _ _ => setTag_flag_iff
  remove := fun _ _ => removeTag_flag_iff
  names := fun projectId name => by
    rw [((WellFormed.empty engine).run operations).contains_tagNames_iff, UsesTag]
    simp only [tagValue?_ne_none_iff]

-- The first operation comes before the call, and the last one is refused: what counts is the tag
-- that was set without a value after one was removed.
example :
    let call (value : String) : CallReport :=
      ⟨"a", none, Subject.newYear, none, ⟨[("env", some value)], List.pairwise_singleton _ _⟩⟩
    (empty.run [.setTag "a" "env" (some "early"), .record "p" (call "dev"),
      .removeTag "a" "env", .setTag "a" "env" none,
      .record "q" (call "late")]).tagValue? "a" "env" = some none :=
  rfl

end Store

end LogFilter
