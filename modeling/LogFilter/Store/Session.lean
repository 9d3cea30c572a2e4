import LogFilter.Store.Operations

/-!
# Sessions with the Database

The operations of a store change it at one stroke. The database changes one statement at a time,
and any statement may fail: the disk may be full, or the file be locked by somebody else. What
was written before stays written then, unless it was written in a transaction, which is rolled
back.

Here the operations are programs of statements. A record writes a call, its response and its
tags with one statement each, and a bulk update writes each tag of each call with one, so both
are transactions; every other operation is one statement.

## Main definitions

* `Database`: which statements fail, and how.
* `Session`, `Program`: the tables between two statements, and statements one after the other.
* `Database.statement`, `Database.transaction`: what is done at one stroke.
* `Database.record`, `Database.updateTags`: the operations that take several statements.
* `StoreOperation`: every operation with its arguments, `StoreOperation.program` its statements,
  and `StoreOperation.perform` what a store makes of it at one stroke.
-/

namespace LogFilter

open Sql

/-- What a **database** does of its own: any statement may fail. -/
structure Database where
  /-- How the statement at a position of the session fails, if it does. -/
  fault? : Nat → Option Error
  /-- How a statement fails that violates a constraint of the tables. -/
  violation : Error

/-- A **session**: the tables as they stand, and the number of statements executed so far. -/
structure Session where
  store : Store
  executed : Nat

/-- A **program**: statements one after the other. One that fails leaves the session as it stands
then. -/
abbrev Program : Type → Type := EStateM Error Session

namespace Database

variable {α : Type} (db : Database)

/-- One **statement**: it fails and changes nothing, or has its effect. -/
def statement (effect : Store → Except Error (α × Store)) : Program α := fun session =>
  let outcome : Except Error (α × Store) := match db.fault? session.executed with
    | some e => .error e
    | none => effect session.store
  match outcome with
  | .ok (answer, store) => .ok answer ⟨store, session.executed + 1⟩
  | .error e => .error e { session with executed := session.executed + 1 }

/-- A statement that only reads. -/
def query (read : Store → Except Error α) : Program α :=
  db.statement fun store => (read store).map fun answer => (answer, store)

/-- The statements that begin and end a transaction. -/
def mark : Program Unit := db.query fun _ => .ok ()

/-- A **transaction**: if any of its statements fails, its end included, then the tables are
again what they were before it. -/
def transaction (body : Program α) : Program α := fun session =>
  let whole : Program α := do
    db.mark
    let answer ← body
    db.mark
    return answer
  match whole session with
  | .ok answer next => .ok answer next
  | .error e next => .error e { next with store := session.store }

/-- Inserts the row of a call; no two calls have one id. -/
def insertCall (call : LoggedCall) : Program Unit :=
  db.statement fun store =>
    if store.calls.any fun other => other.id == call.id then .error db.violation
    else .ok ((), { store with calls := store.calls ++ [call] })

/-- Inserts the row of a response, which refers to a call; no two responses have one id or refer
to one call. -/
def insertResponse (response : ModelResponse) : Program Unit :=
  db.statement fun store =>
    let clash := store.responses.any fun other =>
      other.id == response.id || other.callId == response.callId
    if clash || (store.call? response.callId).isNone then .error db.violation
    else .ok ((), { store with responses := store.responses ++ [response] })

/-- Sets a tag; the flag tells whether there is such a call. -/
def setTag (callId name : String) (value : Option String) : Program Bool :=
  db.statement fun store => .ok (store.setTag callId name value).swap

/-- Removes a tag; the flag tells whether there was one. -/
def removeTag (callId name : String) : Program Bool :=
  db.statement fun store => .ok (store.removeTag callId name).swap

/-- Adds a dataset entry. -/
def addEntry (entry : EntryReport) : Program Unit :=
  db.statement fun store => (store.addEntry entry).map fun next => ((), next)

/-- Writes the row of a call, and that of its response. -/
def writeCall (projectId : String) (call : CallReport) : Program Unit := do
  db.insertCall ⟨call.id, projectId, call.model, call.requestedAt⟩
  call.response.toList.forM fun response => db.insertResponse (response.toRow call.id)

/-- Writes a call with its response and its tags, if its id is not taken. -/
def recordSteps (projectId : String) (call : CallReport) : Program Unit := do
  let taken ← db.query fun store => .ok (store.call? call.id).isSome
  if taken then throw (.callExists call.id)
  else do
    db.writeCall projectId call
    call.tags.entries.forM fun tag => discard (db.setTag call.id tag.1 tag.2)

/-- **Records a call** in a project. -/
def record (projectId : String) (call : CallReport) : Program Unit :=
  db.transaction (db.recordSteps projectId call)

/-- The result of a query; one for another database is not executed. -/
def select (statement : Statement) (read : Store → Except Error α) : Program α :=
  if statement.dialect = .sqlite then db.query read else throw .foreignDialect

/-- The **ids** that a statement selects. -/
def fetchIds (statement : Statement) : Program (List String) :=
  db.select statement fun store => store.fetchIds statement

/-- The **number** that a statement counts. -/
def count (statement : Statement) : Program Nat :=
  db.select statement fun store => store.count statement

/-- The **tag names** that are in use in a project. -/
def tagNames (projectId : String) : Program NameSet :=
  db.query fun store => .ok (store.tagNames projectId)

/-- The **value of a tag**. -/
def tagValue? (callId name : String) : Program (Option (Option String)) :=
  db.query fun store => .ok (store.tagValue? callId name)

/-- Sets one tag of a call to a value, or removes it. -/
def assignTag (callId : String) (assignment : String × Option String) : Program Unit :=
  match assignment.2 with
  | some value => discard (db.setTag callId assignment.1 (some value))
  | none => discard (db.removeTag callId assignment.1)

/-- **Updates tags** of every call that a statement selects, and counts these calls. -/
def updateTags (statement : Statement) (tags : NameMap (Option String)) : Program Nat := do
  let ids ← db.fetchIds statement
  db.transaction <| ids.forM fun id => tags.entries.forM fun assignment =>
    db.assignTag id assignment
  return ids.length

end Database

/-- An **operation** on a store with its arguments, by the type of its answer. -/
inductive StoreOperation : Type → Type
  | record (projectId : String) (call : CallReport) : StoreOperation Unit
  | addEntry (entry : EntryReport) : StoreOperation Unit
  | setTag (callId name : String) (value : Option String) : StoreOperation Bool
  | removeTag (callId name : String) : StoreOperation Bool
  | updateTags (statement : Statement) (tags : NameMap (Option String)) : StoreOperation Nat
  | fetchIds (statement : Statement) : StoreOperation (List String)
  | count (statement : Statement) : StoreOperation Nat
  | tagNames (projectId : String) : StoreOperation NameSet
  | tagValue (callId name : String) : StoreOperation (Option (Option String))

namespace StoreOperation

/-- The **statements** of an operation. -/
def program (db : Database) : {α : Type} → StoreOperation α → Program α
  | _, record projectId call => db.record projectId call
  | _, addEntry entry => db.addEntry entry
  | _, setTag callId name value => db.setTag callId name value
  | _, removeTag callId name => db.removeTag callId name
  | _, updateTags statement tags => db.updateTags statement tags
  | _, fetchIds statement => db.fetchIds statement
  | _, count statement => db.count statement
  | _, tagNames projectId => db.tagNames projectId
  | _, tagValue callId name => db.tagValue? callId name

/-- What an operation makes of a store **at one stroke**: an answer and the store after it. -/
def perform (store : Store) : {α : Type} → StoreOperation α → Except Error (α × Store)
  | _, record projectId call => (store.record projectId call).map fun next => ((), next)
  | _, addEntry entry => (store.addEntry entry).map fun next => ((), next)
  | _, setTag callId name value => .ok (store.setTag callId name value).swap
  | _, removeTag callId name => .ok (store.removeTag callId name).swap
  | _, updateTags statement tags => (store.updateTags statement tags).map Prod.swap
  | _, fetchIds statement => (store.fetchIds statement).map fun ids => (ids, store)
  | _, count statement => (store.count statement).map fun number => (number, store)
  | _, tagNames projectId => .ok (store.tagNames projectId, store)
  | _, tagValue callId name => .ok (store.tagValue? callId name, store)

end StoreOperation

end LogFilter
