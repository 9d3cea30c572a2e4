import LogFilter.Proofs.StoreInvariant
import LogFilter.Store.Session

/-!
# Atomic Operations

An operation on the store takes one statement or several, and each of them may fail. This module
shows that no failure leaves a change behind, whichever statement fails and in whatever way: a
program that only reads changes nothing, a single statement that fails changes nothing, and a
transaction that fails restores the tables. A bulk update reads its ids before its transaction
begins, and every other operation is only one of the three.

That the statements are the right ones is shown by a database in which none fails of itself.
There each operation does what the store does at one stroke, with the same answer and the same
failures. In particular no record violates a constraint of the tables, since the store is well
formed.

## Main definitions

* `Program.Reads`, `Program.Keeps`: no change at all, and no change in case of failure.
* `Program.Does`: what a program makes of a store, however many statements came before.

## Main results

* `StoreOperation.keeps`: an operation that fails leaves the tables as they were.
* `StoreOperation.does_perform`: without faults an operation does what the store does.
-/

namespace LogFilter

open Sql

variable {α β : Type} {db : Database} {store : Store}

/-! ### What is left after a failure -/

/-- The tables that the result of a program leaves. -/
def tablesAfter : EStateM.Result Error Session α → Store
  | .ok _ session => session.store
  | .error _ session => session.store

namespace Program

/-- Whether a program **only reads**: whatever comes of it, the tables are as before. -/
def Reads (program : Program α) : Prop :=
  ∀ session, tablesAfter (program session) = session.store

/-- Whether a program **keeps the tables if it fails**. -/
def Keeps (program : Program α) : Prop :=
  ∀ session e next, program session = .error e next → next.store = session.store

/-- A program that only reads keeps the tables. -/
theorem Reads.keeps {program : Program α} (h : Reads program) : Keeps program := by
  intro session e next hfails
  have hsame := h session
  rw [hfails] at hsame
  exact hsame

/-- Reading first and then keeping keeps the tables. -/
theorem Keeps.bind {program : Program α} {next : α → Program β} (hreads : Reads program)
    (hkeeps : ∀ answer, Keeps (next answer)) : Keeps (program >>= next) := by
  intro session e last hfails
  have hsame := hreads session
  simp only [Bind.bind, EStateM.bind] at hfails
  cases hrun : program session with
  | error e' failed =>
    rw [hrun] at hfails hsame
    cases hfails
    exact hsame
  | ok answer between =>
    rw [hrun] at hfails hsame
    exact (hkeeps answer between e last hfails).trans hsame

/-- What is told about the answer of a program does not fail. -/
theorem Keeps.map {program : Program α} (h : Keeps program) (tell : α → β) :
    Keeps (program >>= fun answer => pure (tell answer)) := by
  intro session e last hfails
  simp only [Bind.bind, EStateM.bind] at hfails
  cases hrun : program session with
  | error e' failed =>
    rw [hrun] at hfails
    cases hfails
    exact h session e last hrun
  | ok answer between =>
    rw [hrun] at hfails
    cases hfails

/-- Programs that only read, one after the other. -/
theorem Reads.bind {program : Program α} {next : α → Program β} (h : Reads program)
    (hnext : ∀ answer, Reads (next answer)) : Reads (program >>= next) := by
  intro session
  have hsame := h session
  simp only [Bind.bind, EStateM.bind]
  cases hrun : program session with
  | error e failed =>
    rw [hrun] at hsame
    exact hsame
  | ok answer between =>
    rw [hrun] at hsame
    exact (hnext answer between).trans hsame

/-- No statement at all only reads. -/
theorem reads_pure (answer : α) : Reads (pure answer) := fun _ => rfl

/-- A failure on its own changes nothing. -/
theorem reads_throw (e : Error) : Reads (throw e : Program α) := fun _ => rfl

/-- A result that is there without the database changes nothing. -/
theorem reads_ofExcept (result : Except Error α) :
    Reads (MonadExcept.ofExcept result : Program α) := by
  cases result with
  | error e => exact reads_throw e
  | ok answer => exact reads_pure answer

end Program

open Program

namespace Database

/-- A statement that fails changes nothing. -/
theorem keeps_statement (effect : Store → Except Error (α × Store)) :
    Keeps (db.statement effect) := by
  intro session e next hfails
  unfold statement at hfails
  dsimp only at hfails
  split at hfails <;> cases hfails
  rfl

/-- A query changes nothing. -/
theorem reads_query (read : Store → Except Error α) : Reads (db.query read) := by
  intro session
  unfold query statement
  dsimp only
  cases db.fault? session.executed with
  | some e => rfl
  | none => cases read session.store <;> rfl

/-- **A transaction that fails changes nothing**, whatever its statements had written. -/
theorem keeps_transaction (body : Program α) : Keeps (db.transaction body) := by
  intro session e next hfails
  unfold transaction at hfails
  dsimp only at hfails
  split at hfails <;> cases hfails
  rfl

/-- The result of a query is only read. -/
theorem reads_select (statement : Statement) (read : Store → Except Error α) :
    Reads (db.select statement read) := by
  unfold select
  split
  · exact reads_query read
  · exact reads_throw _

end Database

/-- **An operation that fails leaves the tables as they were.** -/
theorem StoreOperation.keeps (db : Database) (operation : StoreOperation α) :
    Keeps (operation.program db) := by
  cases operation <;> rw [program]
  case record projectId call => exact Database.keeps_transaction _
  case addEntry | setTag | removeTag => exact Database.keeps_statement _
  case fetchIds | count => exact (Database.reads_select _ _).keeps
  case tagNames | tagValue => exact (Database.reads_query _).keeps
  case updateTags statement tags =>
    refine Keeps.bind (Database.reads_select _ _) fun ids => ?_
    exact (Database.keeps_transaction _).map fun _ => ids.length

/-! ### Programs without faults -/

namespace Program

/-- What comes of a program, without the number of its statements. -/
def outcome : EStateM.Result Error Session α → Except Error (α × Store)
  | .ok answer session => .ok (answer, session.store)
  | .error e _ => .error e

/-- Whether a program **does** something from a store, however many statements came before. -/
def Does (program : Program α) (store : Store) (result : Except Error (α × Store)) : Prop :=
  ∀ executed, outcome (program ⟨store, executed⟩) = result

/-- No statement at all. -/
theorem does_pure (answer : α) : Does (pure answer) store (.ok (answer, store)) := fun _ => rfl

/-- A failure on its own. -/
theorem does_throw (e : Error) : Does (throw e : Program α) store (.error e) := fun _ => rfl

/-- A result that is there without the database. -/
theorem does_ofExcept (result : Except Error α) :
    Does (MonadExcept.ofExcept result) store (result.map fun answer => (answer, store)) := by
  cases result with
  | error e => exact does_throw e
  | ok answer => exact does_pure answer

/-- What is done first is there for what is done next. -/
theorem Does.bind {program : Program α} {next : α → Program β} {answer : α} {between : Store}
    {result : Except Error (β × Store)} (h : Does program store (.ok (answer, between)))
    (hnext : Does (next answer) between result) : Does (program >>= next) store result := by
  intro executed
  have hfirst := h executed
  simp only [Bind.bind, EStateM.bind]
  cases hrun : program ⟨store, executed⟩ with
  | error e failed => rw [hrun] at hfirst; cases hfirst
  | ok answer' session =>
    rw [hrun] at hfirst
    cases hfirst
    exact hnext session.executed

/-- What is told about an answer is told of what was done. -/
theorem Does.map {program : Program α} {result : Except Error (α × Store)}
    (h : Does program store result) (tell : α → β) :
    Does (program >>= fun answer => pure (tell answer)) store
      (result.map fun (answer, after) => (tell answer, after)) := by
  intro executed
  rw [← h executed]
  simp only [Bind.bind, EStateM.bind]
  cases program ⟨store, executed⟩ <;> rfl

/-- After a failure nothing is done. -/
theorem Does.bind_error {program : Program α} {next : α → Program β} {e : Error}
    (h : Does program store (.error e)) : Does (program >>= next) store (.error e) := by
  intro executed
  have hfirst := h executed
  simp only [Bind.bind, EStateM.bind]
  cases hrun : program ⟨store, executed⟩ with
  | ok answer session => rw [hrun] at hfirst; cases hfirst
  | error e' failed =>
    rw [hrun] at hfirst
    cases hfirst
    rfl

/-- Steps that do not fail are done one after the other. -/
theorem does_forM {step : α → Program Unit} {change : Store → α → Store}
    (hstep : ∀ store item, Does (step item) store (.ok ((), change store item)))
    (items : List α) (store : Store) :
    Does (items.forM step) store (.ok ((), items.foldl change store)) := by
  induction items generalizing store with
  | nil => exact does_pure ()
  | cons item rest ih => exact (hstep store item).bind (ih _)

end Program

/-- Whether **no statement fails** of itself. -/
def Database.Faultless (db : Database) : Prop := ∀ position, db.fault? position = none

namespace Database

variable (hdb : db.Faultless)
include hdb

/-- A statement has its effect. -/
theorem does_statement {effect : Store → Except Error (α × Store)}
    {result : Except Error (α × Store)} (h : effect store = result) :
    Does (db.statement effect) store result := by
  intro executed
  simp only [statement, hdb executed, h]
  cases result <;> rfl

/-- A query has its answer. -/
theorem does_query (read : Store → Except Error α) :
    Does (db.query read) store ((read store).map fun answer => (answer, store)) :=
  does_statement hdb rfl

/-- A transaction does what its statements do. -/
theorem does_transaction {body : Program α} {result : Except Error (α × Store)}
    (h : Does body store result) : Does (db.transaction body) store result := by
  have hmark (store : Store) : Does db.mark store (.ok ((), store)) := does_query hdb _
  have hwhole : Does (do db.mark; let answer ← body; db.mark; return answer) store result := by
    refine (hmark store).bind ?_
    cases result with
    | error e => exact h.bind_error
    | ok after => exact h.bind ((hmark after.2).bind (does_pure after.1))
  intro executed
  rw [← hwhole executed]
  unfold transaction
  dsimp only
  split <;> simp only [*, outcome]

/-- The result of a query, where one for another database has none. -/
theorem does_select {statement : Statement} {read : Store → Except Error α}
    (hforeign : statement.dialect ≠ .sqlite → read store = .error .foreignDialect) :
    Does (db.select statement read) store ((read store).map fun answer => (answer, store)) := by
  unfold select
  split
  · exact does_query hdb read
  · next hdialect =>
    rw [hforeign hdialect]
    exact does_throw _

/-- A call with a new id is inserted. -/
theorem does_insertCall {call : LoggedCall} (hnew : store.call? call.id = none) :
    Does (db.insertCall call) store
      (.ok ((), { store with calls := store.calls ++ [call] })) := by
  have hfree : ¬(store.calls.any fun other => other.id == call.id) = true := by
    simpa [Store.call?] using hnew
  exact does_statement hdb (if_neg hfree)

/-- The response to a call is inserted, if it is the first one. -/
theorem does_insertResponse {response : ModelResponse} {call : LoggedCall}
    (hcall : store.call? response.callId = some call)
    (hnew : ∀ other ∈ store.responses, other.id ≠ response.id ∧ other.callId ≠ response.callId) :
    Does (db.insertResponse response) store
      (.ok ((), { store with responses := store.responses ++ [response] })) := by
  have hfree : (store.responses.any fun other =>
      other.id == response.id || other.callId == response.callId) = false := by
    simpa using hnew
  refine does_statement hdb ?_
  dsimp only
  rw [hfree, hcall]
  rfl

/-- Setting a tag does so, whatever its flag tells. -/
theorem does_setTag (callId name : String) (value : Option String) :
    Does (discard (db.setTag callId name value)) store
      (.ok ((), (store.setTag callId name value).1)) :=
  Does.bind (does_statement hdb rfl) (does_pure ())

/-- Removing a tag does so, whatever its flag tells. -/
theorem does_removeTag (callId name : String) :
    Does (discard (db.removeTag callId name)) store
      (.ok ((), (store.removeTag callId name).1)) :=
  Does.bind (does_statement hdb rfl) (does_pure ())

/-- An assignment sets or removes one tag. -/
theorem does_assignTag (callId : String) (assignment : String × Option String) :
    Does (db.assignTag callId assignment) store
      (.ok ((), store.assignTag callId assignment)) := by
  cases hvalue : assignment.2 with
  | some value =>
    simp only [assignTag, Store.assignTag, hvalue]
    exact does_setTag hdb callId assignment.1 (some value)
  | none =>
    simp only [assignTag, Store.assignTag, hvalue]
    exact does_removeTag hdb callId assignment.1

/-- A new call is written with its response: nothing in the store refers to its id yet. -/
theorem does_writeCall (h : store.WellFormed) (projectId : String) {call : CallReport}
    (hnew : store.call? call.id = none) :
    Does (db.writeCall projectId call) store
      (.ok ((), store.addCall (call.toRow projectId) call.responseRow)) := by
  refine (does_insertCall hdb hnew).bind ?_
  cases hresponse : call.response with
  | none =>
    simp only [CallReport.responseRow, hresponse, Store.addCall, Option.map_none,
      Option.toList_none, List.append_nil]
    exact does_pure ()
  | some response =>
    -- A stored response to this call, or with the id of its response, belongs to a stored call
    -- with this id.
    have hfirst : ∀ other ∈ store.responses,
        other.id ≠ call.id ++ ":response" ∧ other.callId ≠ call.id := by
      intro other hother
      have hcallId : other.callId ≠ call.id := by
        obtain ⟨owner, howner, hid⟩ := h.responseCall other hother
        rw [← hid]
        exact Store.call?_eq_none_iff.mp hnew owner howner
      refine ⟨fun hsame => hcallId ?_, hcallId⟩
      rw [h.responseId other hother] at hsame
      exact (String.append_left_inj _).mp hsame
    have hcall : (store.addCall (call.toRow projectId) none).call? call.id =
        some (call.toRow projectId) := Store.call?_addCall_self hnew none
    simp only [CallReport.responseRow, hresponse]
    exact Does.bind (does_insertResponse hdb hcall hfirst) (does_pure ())

/-- **A record does what the store does**: no constraint of the tables is in its way. -/
theorem does_record (h : store.WellFormed) (projectId : String) (call : CallReport) :
    Does (db.record projectId call) store
      ((store.record projectId call).map fun next => ((), next)) := by
  refine does_transaction hdb ((does_query hdb _).bind ?_)
  cases hcall : store.call? call.id with
  | some taken =>
    rw [Store.record, hcall]
    exact does_throw _
  | none =>
    rw [Store.record_eq_ok_iff.mpr ⟨hcall, rfl⟩]
    refine (does_writeCall hdb h projectId hcall).bind ?_
    exact does_forM (fun store tag => does_setTag hdb call.id tag.1 tag.2) call.tags.entries _

omit hdb in
/-- A query for another database is refused by the store, too. -/
theorem execute_eq_error {statement : Statement} (hforeign : statement.dialect ≠ .sqlite)
    (engine : Engine) (tables : Tables) :
    statement.execute engine tables = .error .foreignDialect := by
  cases statement with
  | value content => exact absurd rfl hforeign
  | select query dialect projection =>
    cases dialect with
    | sqlite => exact absurd rfl hforeign
    | postgres => rfl

/-- The ids of a statement are those that the store gives. -/
theorem does_fetchIds (statement : Statement) :
    Does (db.fetchIds statement) store
      ((store.fetchIds statement).map fun ids => (ids, store)) := by
  refine does_select hdb fun hforeign => ?_
  rw [Store.fetchIds, execute_eq_error hforeign]
  rfl

/-- The number of a statement is the one that the store gives. -/
theorem does_count (statement : Statement) :
    Does (db.count statement) store
      ((store.count statement).map fun number => (number, store)) := by
  refine does_select hdb fun hforeign => ?_
  rw [Store.count, execute_eq_error hforeign]
  rfl

/-- **A bulk update does what the store does**: it makes the assignments one by one. -/
theorem does_updateTags (statement : Statement) (tags : NameMap (Option String)) :
    Does (db.updateTags statement tags) store
      ((store.updateTags statement tags).map Prod.swap) := by
  have hselect : Does (db.fetchIds statement) store _ := does_fetchIds hdb statement
  unfold updateTags Store.updateTags
  cases hids : store.fetchIds statement with
  | error e =>
    rw [hids] at hselect
    exact hselect.bind_error
  | ok ids =>
    rw [hids] at hselect
    have hassign (store : Store) (id : String) := does_forM
      (fun _ assignment => does_assignTag hdb id assignment) tags.entries store
    exact hselect.bind ((does_transaction hdb (does_forM hassign ids store)).bind (does_pure _))

end Database

/-- **Without faults an operation does what the store does at one stroke**, failures included. -/
theorem StoreOperation.does_perform (hdb : db.Faultless) (h : store.WellFormed)
    (operation : StoreOperation α) :
    Does (operation.program db) store (operation.perform store) := by
  cases operation <;> rw [program, perform]
  case record projectId call => exact Database.does_record hdb h projectId call
  case addEntry entry => exact Database.does_statement hdb rfl
  case setTag callId name value => exact Database.does_statement hdb rfl
  case removeTag callId name => exact Database.does_statement hdb rfl
  case updateTags statement tags => exact Database.does_updateTags hdb statement tags
  case fetchIds statement => exact Database.does_fetchIds hdb statement
  case count statement => exact Database.does_count hdb statement
  case tagNames projectId => exact Database.does_query hdb _
  case tagValue callId name => exact Database.does_query hdb _

end LogFilter
