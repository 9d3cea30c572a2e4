import LogFilter.Http.Service
import LogFilter.Store.Session

/-!
# Requests over a Session

What the routes do with a database in which any statement may fail. A handler compiles the
request, for which the strict policy reads the tag names of the scope, then does one operation,
and only then tells about it.

## Main definitions

* `compileIn`: the query of a request, in a session.
* `askIn`: the session after a request at a route, and the response.
-/

namespace LogFilter.Http

open Sql

variable (db : Database) (settings : Settings)

/-- The tag names of a scope, which are read only if the policy needs to know them. -/
def knownNames (subject : Subject) (scope : String) : Program NameSet :=
  if settings.compiler.unknownFields = .reject ∧ subject.tags.isSome then db.tagNames scope
  else pure .empty

/-- The **query of a request**. -/
def compileIn (subject : Subject) (scope : String) (filters : List Filter)
    (selection : Option Selection) : Program Query := do
  let known ← knownNames db settings subject scope
  MonadExcept.ofExcept (subject.compile (settings.compiler.options known) scope filters selection)

/-- What a request is told: each handler gives the members of its success. -/
abbrev Members := List (String × Json)

/-- The ids on the page that a request asks for. -/
def queryIdsIn (subject : Subject) (scope : String) (request : FilterRequest) :
    Program Members := do
  let query ← compileIn db settings subject scope request.filters request.selection
  let ids ← db.fetchIds (.select query .sqlite (page settings request))
  return [("ids", textArray ids)]

/-- The number of records that a request matches. -/
def countLogsIn (scope : String) (request : FilterRequest) : Program Members := do
  let query ← compileIn db settings .loggedCalls scope request.filters request.selection
  let count ← db.count (.select query .sqlite .count)
  return [("count", .integer count)]

/-- The statement of a request. -/
def explainLogsIn (scope : String) (request : FilterRequest) : Program Members := do
  let query ← compileIn db settings .loggedCalls scope request.filters request.selection
  let statement := Statement.select query settings.compiler.dialect (page settings request)
  return [("dialect", .string statement.dialect.name), ("sql", .string statement.sql),
    ("params", .array (statement.params.map Scalar.encode)),
    ("tagJoins", .integer statement.tagJoins)]

/-- Updates the tags of all records that a request matches. -/
def updateLogTagsIn (scope : String) (request : UpdateRequest) : Program Members := do
  let query ← compileIn db settings .loggedCalls scope request.filters none
  let matched ← db.updateTags (.select query .sqlite .ids) request.tags
  return [("matchedLogs", .integer matched)]

/-- Records a call; `now` is the time of the request. -/
def reportIn (now : Timestamp) (scope : String) (request : ReportRequest) : Program Members := do
  db.record scope (request.toCall now)
  return []

/-- The tag names of a project. -/
def tagNamesIn (scope : String) : Program Members := do
  let names ← db.tagNames scope
  return [("tags", textArray names.toList)]

/-- The response to what a handler did in a session. -/
def conclude (session : Session) (handler : Program Members) : Session × Response :=
  match handler session with
  | .ok members next => (next, .success members)
  | .error e next => (next, .failure e)

/-- The response to what a handler makes of a body, or to a body that cannot be read. -/
def handleIn {α : Type} (session : Session) (decode : Json.Decoder α) (request : Request)
    (handler : α → Program Members) : Session × Response :=
  match readBody decode request with
  | .error response => (session, response)
  | .ok body => conclude session (handler body)

/-- The answer of a **route** in a scope, and the session after it. -/
def askIn (now : Timestamp) (session : Session) (request : Request) (route : Route)
    (scope : String) : Session × Response :=
  match route with
  | .queryLogs => handleIn session FilterRequest.decode request
      (queryIdsIn db settings .loggedCalls scope)
  | .countLogs => handleIn session FilterRequest.decode request (countLogsIn db settings scope)
  | .explainLogs => handleIn session FilterRequest.decode request
      (explainLogsIn db settings scope)
  | .updateTags => handleIn session UpdateRequest.decode request
      (updateLogTagsIn db settings scope)
  | .report => handleIn session ReportRequest.decode request (reportIn db now scope)
  | .tagNames => conclude session (tagNamesIn db scope)
  | .queryEntries => handleIn session FilterRequest.decode request
      (queryIdsIn db settings .datasetEntries scope)

end LogFilter.Http
