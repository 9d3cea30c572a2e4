import LogFilter.Json.Basic
import LogFilter.Store.Basic

/-!
# Operations on the Store

What a store can be asked to do. Every writing operation gives either an error or a whole new
store, so a failure leaves no trace.

## Main definitions

* `CallReport`, `ResponseReport`, `EntryReport`: what is reported to the store.
* `Store.record`, `Store.addEntry`: new calls and new entries.
* `Store.setTag`, `Store.removeTag`, `Store.updateTags`: changes to tags.
* `Store.tagValue?`, `Store.tagNames`: what tags there are.
* `Store.fetchIds`, `Store.count`: the result of a statement.
-/

namespace LogFilter

open Sql

/-- A **response as reported**: its payloads are any JSON values. -/
structure ResponseReport where
  reqPayload : Json
  respPayload : Option Json
  statusCode : Option Int
  errorMessage : Option String

/-- A **call as reported**, with its response and its tags; a tag may have no value. -/
structure CallReport where
  id : String
  model : Option String
  requestedAt : Timestamp
  response : Option ResponseReport
  tags : NameMap (Option String)

/-- A **dataset entry as reported**. -/
structure EntryReport where
  id : String
  datasetId : String
  messages : Json
  output : Option Json
  outdated : Bool
  createdAt : Timestamp

/-- The row of a reported response. -/
def ResponseReport.toRow (response : ResponseReport) (callId : String) : ModelResponse where
  id := callId ++ ":response"
  callId := callId
  reqPayload := response.reqPayload.compact
  respPayload := response.respPayload.map Json.compact
  statusCode := response.statusCode
  errorMessage := response.errorMessage

/-- The row of a reported entry. -/
def EntryReport.toRow (entry : EntryReport) : DatasetEntry where
  id := entry.id
  datasetId := entry.datasetId
  messages := entry.messages.compact
  output := entry.output.map Json.compact
  outdated := entry.outdated
  createdAt := entry.createdAt

/-- Whether a tag is the one of a call and a name. -/
def CallTag.isFor (callId name : String) (tag : CallTag) : Bool :=
  tag.callId == callId && tag.name == name

/-- Puts a tag among others: it takes the place of the tag of the same call and name, of
which it keeps the project, or comes last. -/
def putTag (tag : CallTag) : List CallTag → List CallTag
  | [] => [tag]
  | other :: rest =>
      if other.isFor tag.callId tag.name then { other with value := tag.value } :: rest
      else other :: putTag tag rest

namespace Store

/-- **Sets a tag** of a logged call, whatever it was before. The tag gets the project of the
call. The flag tells whether there is such a call; without one nothing changes. -/
def setTag (store : Store) (callId name : String) (value : Option String) : Store × Bool :=
  match store.call? callId with
  | some call =>
      ({ store with tags := putTag ⟨callId, call.projectId, name, value⟩ store.tags }, true)
  | none => (store, false)

/-- **Removes a tag** of a logged call. The flag tells whether there was such a tag. -/
def removeTag (store : Store) (callId name : String) : Store × Bool :=
  ({ store with tags := store.tags.filter fun tag => !tag.isFor callId name },
    store.tags.any (CallTag.isFor callId name))

/-- Sets some tags of one call, one after the other. -/
def setTags (store : Store) (callId : String) (tags : List (String × Option String)) : Store :=
  tags.foldl (fun store tag => (store.setTag callId tag.1 tag.2).1) store

/-- **Records a call** in a project, with its response and its tags. A call with an id that is
taken, in any project, is refused. -/
def record (store : Store) (projectId : String) (call : CallReport) : Except Error Store :=
  match store.call? call.id with
  | some _ => .error (.callExists call.id)
  | none =>
      let row : LoggedCall := ⟨call.id, projectId, call.model, call.requestedAt⟩
      let responses := call.response.toList.map fun response => response.toRow call.id
      .ok ({ store with
        calls := store.calls ++ [row]
        responses := store.responses ++ responses }.setTags call.id call.tags.entries)

/-- **Adds a dataset entry**, unless its id is taken, in any dataset. -/
def addEntry (store : Store) (entry : EntryReport) : Except Error Store :=
  if store.entries.any fun other => other.id == entry.id then .error .entryExists
  else .ok { store with entries := store.entries ++ [entry.toRow] }

/-- The **value of a tag**: none if there is no such tag, and a tag may have no value. -/
def tagValue? (store : Store) (callId name : String) : Option (Option String) :=
  (store.tags.find? (CallTag.isFor callId name)).map CallTag.value

/-- The **tag names** that are in use in a project. -/
def tagNames (store : Store) (projectId : String) : NameSet :=
  .ofList ((store.tags.filter fun tag => tag.projectId == projectId).map CallTag.name)

/-- The **ids** that a statement selects, in order. -/
def fetchIds (store : Store) (statement : Statement) : Except Error (List String) := do
  let result ← statement.execute store.engine store.tables
  result.texts

/-- The **number** that a statement counts. -/
def count (store : Store) (statement : Statement) : Except Error Nat := do
  let result ← statement.execute store.engine store.tables
  result.count

/-- Sets one tag of a call to a value, or removes it. -/
def assignTag (store : Store) (callId : String) (assignment : String × Option String) : Store :=
  match assignment.2 with
  | some value => (store.setTag callId assignment.1 (some value)).1
  | none => (store.removeTag callId assignment.1).1

/-- Makes all of some assignments to one call. -/
def assignTags (store : Store) (assignments : List (String × Option String))
    (callId : String) : Store :=
  assignments.foldl (fun store assignment => store.assignTag callId assignment) store

/-- **Updates tags**: makes the assignments to every call that a statement selects, where no
value means that the tag is removed. The calls are selected before anything is written, and
their number is the answer. -/
def updateTags (store : Store) (statement : Statement) (tags : NameMap (Option String)) :
    Except Error (Store × Nat) := do
  let ids ← store.fetchIds statement
  return (ids.foldl (fun store id => store.assignTags tags.entries id) store, ids.length)

end Store

end LogFilter
