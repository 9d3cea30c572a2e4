import LogFilter.Sql.Plan
import LogFilter.Timestamp.Basic

/-!
# The Store

A store holds four tables: logged calls, their responses, their tags, and dataset entries. A
response or tag refers to its call by id, and a tag repeats the project of its call. Queries are
executed by an engine, which is the same for as long as there is the store.

## Main definitions

* `LoggedCall`, `ModelResponse`, `CallTag`, `DatasetEntry`: the rows of the tables.
* `Store`: the four tables and the engine.
* `Store.tables`: the tables as queries see them.
-/

namespace LogFilter

open Sql

/-- A **logged call**. -/
structure LoggedCall where
  id : String
  projectId : String
  model : Option String
  requestedAt : Timestamp
  deriving DecidableEq, Repr

/-- The **response** to a logged call, with the payloads as their compact text. -/
structure ModelResponse where
  id : String
  callId : String
  reqPayload : String
  respPayload : Option String
  statusCode : Option Int
  errorMessage : Option String
  deriving DecidableEq, Repr

/-- A **tag** of a logged call. A tag may have no value, which is not the same as no tag. -/
structure CallTag where
  callId : String
  projectId : String
  name : String
  value : Option String
  deriving DecidableEq, Repr

/-- A **dataset entry**, with its messages and output as their compact text. -/
structure DatasetEntry where
  id : String
  datasetId : String
  messages : String
  output : Option String
  outdated : Bool
  createdAt : Timestamp
  deriving DecidableEq, Repr

/-- The **store**: its four tables, and the engine that executes queries on them. -/
structure Store where
  calls : List LoggedCall
  responses : List ModelResponse
  tags : List CallTag
  entries : List DatasetEntry
  engine : Engine

/-- The cells of a logged call. -/
def LoggedCall.row (call : LoggedCall) : Row
  | "id" => .text call.id
  | "projectId" => .text call.projectId
  | "model" => .ofText? call.model
  | "requestedAt" => .text call.requestedAt.text
  | _ => .null

/-- The cells of a response. -/
def ModelResponse.row (response : ModelResponse) : Row
  | "id" => .text response.id
  | "originalLoggedCallId" => .text response.callId
  | "reqPayload" => .text response.reqPayload
  | "respPayload" => .ofText? response.respPayload
  | "statusCode" => (response.statusCode.map Cell.integer).getD .null
  | "errorMessage" => .ofText? response.errorMessage
  | _ => .null

/-- The cells of a tag. -/
def CallTag.row (tag : CallTag) : Row
  | "loggedCallId" => .text tag.callId
  | "projectId" => .text tag.projectId
  | "name" => .text tag.name
  | "value" => .ofText? tag.value
  | _ => .null

/-- The cells of a dataset entry. -/
def DatasetEntry.row (entry : DatasetEntry) : Row
  | "id" => .text entry.id
  | "datasetId" => .text entry.datasetId
  | "messages" => .text entry.messages
  | "output" => .ofText? entry.output
  | "outdated" => (Scalar.boolean entry.outdated).cell
  | "createdAt" => .text entry.createdAt.text
  | _ => .null

namespace Store

/-- The store without rows. If nothing else is said of its engine, that one makes plans. -/
def empty (engine : Engine := .planned) : Store := ⟨[], [], [], [], engine⟩

instance : Inhabited Store := ⟨empty⟩

/-- The **tables as queries see them**, under the names that the subjects use. -/
def tables (store : Store) : Tables
  | "LoggedCall" => store.calls.map LoggedCall.row
  | "LoggedCallModelResponse" => store.responses.map ModelResponse.row
  | "LoggedCallTag" => store.tags.map CallTag.row
  | "DatasetEntry" => store.entries.map DatasetEntry.row
  | _ => []

/-- The logged call of an id. -/
def call? (store : Store) (id : String) : Option LoggedCall :=
  store.calls.find? fun call => call.id == id

end Store

end LogFilter
