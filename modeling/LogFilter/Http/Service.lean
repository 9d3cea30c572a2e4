import LogFilter.Http.MediaType
import LogFilter.Http.Route
import LogFilter.Settings.Basic
import LogFilter.Wire.Request

/-!
# The Service

Requests are answered from a store. A request is looked at in a fixed order: its path, its
method, the scope in the path, the type of its body, the body, and only then what it asks
for; the first of these that is wrong decides the answer.

## Main definitions

* `Request`, `Response`: what is asked and what is answered.
* `ask`: the answer of a route to a body that could be read.
* `respond`: the store after a request, and the response.
-/

namespace LogFilter.Http

open Sql

/-- A **request**, whose target and body are text. -/
structure Request where
  method : String
  target : String
  contentType : Option String
  body : String

/-- What a response holds. -/
inductive Body
  | json (value : Json)
  | text (content : String)

/-- A **response**. -/
structure Response where
  status : Nat
  body : Body

namespace Response

/-- A response that is a text. -/
def plain (status : Nat) (content : String) : Response := ⟨status, .text content⟩

/-- A successful response, with the members that tell what was asked for. -/
def success (members : List (String × Json)) : Response :=
  ⟨200, .json (.object (lastByName (("status", .string "ok") :: members)))⟩

/-- The status of a failure: faulty filters are the caller's fault, a taken id is a conflict,
and everything else is the server's fault. -/
def statusOf (e : Error) : Nat :=
  if e.isValidation then 400
  else if e.kind = .conflict then 409
  else 500

/-- The response to a failure. -/
def failure (e : Error) : Response :=
  ⟨statusOf e, .json (.object [("error", .string e.message), ("status", .string "error")])⟩

end Response

/-- The page that a request asks for: never larger than the settings allow. -/
def page (settings : Settings) (request : FilterRequest) : Projection :=
  let largest := settings.server.maxPageSize
  .page (min (request.limit.getD largest) largest) (request.offset.getD 0)

/-- The options of a request's compilation. Only a policy that refuses unknown fields needs to
know the tag names of the scope. -/
def optionsFor (settings : Settings) (store : Store) (subject : Subject) (scope : String) :
    Options :=
  settings.compiler.options <|
    if settings.compiler.unknownFields = .reject ∧ subject.tags.isSome then
      store.tagNames scope
    else .empty

/-- The **query of a request**. -/
def compileFor (settings : Settings) (store : Store) (subject : Subject) (scope : String)
    (filters : List Filter) (selection : Option Selection) : Except Error Query :=
  subject.compile (optionsFor settings store subject scope) scope filters selection

/-- Texts as a JSON array. -/
def textArray (texts : List String) : Json := .array (texts.map .string)

/-- The ids on the page that a request asks for. -/
def queryIds (settings : Settings) (store : Store) (subject : Subject) (scope : String)
    (request : FilterRequest) : Except Error Response := do
  let query ← compileFor settings store subject scope request.filters request.selection
  let ids ← store.fetchIds (.select query .sqlite (page settings request))
  return .success [("ids", textArray ids)]

/-- The number of records that a request matches. -/
def countLogs (settings : Settings) (store : Store) (scope : String) (request : FilterRequest) :
    Except Error Response := do
  let query ← compileFor settings store .loggedCalls scope request.filters request.selection
  let count ← store.count (.select query .sqlite .count)
  return .success [("count", .integer count)]

/-- The statement of a request, in the dialect of the settings. -/
def explainLogs (settings : Settings) (store : Store) (scope : String)
    (request : FilterRequest) : Except Error Response := do
  let query ← compileFor settings store .loggedCalls scope request.filters request.selection
  let statement := Statement.select query settings.compiler.dialect (page settings request)
  return .success
    [("dialect", .string statement.dialect.name), ("sql", .string statement.sql),
      ("params", .array (statement.params.map Scalar.encode)),
      ("tagJoins", .integer statement.tagJoins)]

/-- Updates the tags of all records that a request matches. -/
def updateLogTags (settings : Settings) (store : Store) (scope : String)
    (request : UpdateRequest) : Except Error (Store × Response) := do
  let query ← compileFor settings store .loggedCalls scope request.filters none
  let (store, matched) ← store.updateTags (.select query .sqlite .ids) request.tags
  return (store, .success [("matchedLogs", .integer matched)])

/-- Records a call; `now` is the time of the request. -/
def report (store : Store) (now : Timestamp) (scope : String) (request : ReportRequest) :
    Except Error (Store × Response) := do
  let store ← store.record scope (request.toCall now)
  return (store, .success [])

/-- The response to a body that could not be read. -/
def unreadable : Json.ReadError → Response
  | .mismatch => .plain 422 "Failed to deserialize the JSON body into the target type"
  | .malformed | .unfinished => .plain 400 "Failed to parse the request body as JSON"

/-- How many bytes the body of a request may have. -/
def maxBodySize : Nat := 2097152

/-- Reads the body of a request, which must be given as JSON and must not be too large; what
follows the first value in it is not looked at. -/
def readBody {α : Type} (decode : Json.Decoder α) (request : Request) : Except Response α :=
  let isJson := (request.contentType.bind MediaType.read?).any MediaType.isJson
  if !isJson then
    .error (.plain 415 "Expected request with `Content-Type: application/json`")
  else if maxBodySize < request.body.utf8ByteSize then
    .error (.plain 413 "Failed to buffer the request body")
  else (Json.readStart decode request.body).mapError unreadable

/-- What a handler makes of a body, or the response to a body that cannot be read. A failure
leaves the store as it was. -/
def handle {α : Type} (store : Store) (decode : Json.Decoder α) (request : Request)
    (handler : α → Except Error (Store × Response)) : Store × Response :=
  match readBody decode request with
  | .error response => (store, response)
  | .ok body =>
      match handler body with
      | .error e => (store, .failure e)
      | .ok result => result

/-- The answer of a **route** in a scope. -/
def ask (settings : Settings) (now : Timestamp) (store : Store) (request : Request)
    (route : Route) (scope : String) : Store × Response :=
  let unchanged := fun (response : Except Error Response) => response.map fun r => (store, r)
  match route with
  | .queryLogs => handle store FilterRequest.decode request fun body =>
      unchanged (queryIds settings store .loggedCalls scope body)
  | .countLogs => handle store FilterRequest.decode request fun body =>
      unchanged (countLogs settings store scope body)
  | .explainLogs => handle store FilterRequest.decode request fun body =>
      unchanged (explainLogs settings store scope body)
  | .updateTags => handle store UpdateRequest.decode request fun body =>
      updateLogTags settings store scope body
  | .report => handle store ReportRequest.decode request fun body =>
      report store now scope body
  | .tagNames =>
      (store, .success [("tags", textArray (store.tagNames scope).toList)])
  | .queryEntries => handle store FilterRequest.decode request fun body =>
      unchanged (queryIds settings store .datasetEntries scope body)

/-- The answer to a request other than one for the options of a path or for headers alone. -/
def answer (settings : Settings) (now : Timestamp) (store : Store) (method : String)
    (request : Request) : Store × Response :=
  match Route.find? (pathOf request.target) with
  | none => (store, .plain 404 "")
  | some (route, written) =>
      if method ≠ route.method then (store, .plain 405 "")
      else match percentDecode? written with
        | none =>
            (store, .plain 400
              ("Invalid URL: Invalid UTF-8 in `" ++ route.scopeName ++ "`"))
        | some scope => ask settings now store request route scope

/-- **Responds** to a request made at the time `now`. A request for options is granted on
every path; a request for headers is answered like one for content, without the content. -/
def respond (settings : Settings) (now : Timestamp) (store : Store) (request : Request) :
    Store × Response :=
  if request.method = "OPTIONS" then (store, .plain 200 "")
  else if request.method = "HEAD" then
    let (store, response) := answer settings now store "GET" request
    (store, ⟨response.status, .text ""⟩)
  else answer settings now store request.method request

end LogFilter.Http
