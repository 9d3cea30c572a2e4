import LogFilter.Http.Session
import LogFilter.Proofs.Atomicity
import LogFilter.Proofs.ProjectRequests
import LogFilter.Proofs.QueryMeaning

/-!
# Failed Requests

A request reads its body, compiles its filters, does one operation on the store, and only then
answers. Each of these may fail, and this module shows that the store is then as it was before
the request. The order matters: only the last thing that can fail writes, and it is atomic.

Requests are looked at twice, over a database in which any statement may fail, and over the
store itself, where nothing fails but what is wrong with the request. The second is the first
without faults, so what is shown of the first holds of the second.

## Main results

* `askIn_unchanged`: a request at a route that is not answered with success changes nothing.
* `askIn_faultless`: without faults a route answers as it does over the store.
* `failures_change_nothing`: failed operations and failed requests leave every reachable store as
  it was.
-/

namespace LogFilter.Http

open Sql Program

variable {α : Type} {db : Database} {settings : Settings} {now : Timestamp} {store : Store}
  {subject : Subject} {scope : String}

/-! ### What is left after a failure -/

/-- **A compilation only reads.** -/
theorem reads_compileIn (filters : List Filter) (selection : Option Selection) :
    Reads (compileIn db settings subject scope filters selection) := by
  refine Reads.bind ?_ fun known => reads_ofExcept _
  unfold knownNames
  split
  · exact Database.reads_query _
  · exact reads_pure _

/-- A response that is no success tells of a failure, which keeps the tables. -/
theorem conclude_unchanged {handler : Program Members} (h : Keeps handler) {session : Session}
    (hstatus : (conclude session handler).2.status ≠ 200) :
    (conclude session handler).1.store = session.store := by
  unfold conclude at hstatus ⊢
  cases hrun : handler session with
  | ok members next =>
    rw [hrun] at hstatus
    exact absurd rfl hstatus
  | error e next => exact h session e next hrun

/-- So does a response to a body that cannot be read. -/
theorem handleIn_unchanged {decode : Json.Decoder α} {handler : α → Program Members}
    (h : ∀ body, Keeps (handler body)) {session : Session} {request : Request}
    (hstatus : (handleIn session decode request handler).2.status ≠ 200) :
    (handleIn session decode request handler).1.store = session.store := by
  unfold handleIn at hstatus ⊢
  cases hread : readBody decode request with
  | error response => rfl
  | ok body =>
    rw [hread] at hstatus
    exact conclude_unchanged (h body) hstatus

section Handlers

variable (db) (settings) (scope)

/-- A query that fails keeps the tables. -/
theorem keeps_queryIdsIn (subject : Subject) (request : FilterRequest) :
    Keeps (queryIdsIn db settings subject scope request) :=
  Keeps.bind (reads_compileIn _ _) fun _ => (Database.reads_select _ _).keeps.map _

/-- A count that fails keeps the tables. -/
theorem keeps_countLogsIn (request : FilterRequest) :
    Keeps (countLogsIn db settings scope request) :=
  Keeps.bind (reads_compileIn _ _) fun _ => (Database.reads_select _ _).keeps.map _

/-- An explanation that fails keeps the tables. -/
theorem keeps_explainLogsIn (request : FilterRequest) :
    Keeps (explainLogsIn db settings scope request) :=
  Keeps.bind (reads_compileIn _ _) fun _ => (reads_pure _).keeps

/-- An update that fails keeps the tables. -/
theorem keeps_updateLogTagsIn (request : UpdateRequest) :
    Keeps (updateLogTagsIn db settings scope request) :=
  Keeps.bind (reads_compileIn _ _) fun query =>
    ((StoreOperation.updateTags (.select query .sqlite .ids) request.tags).keeps db).map _

/-- A report that fails keeps the tables. -/
theorem keeps_reportIn (now : Timestamp) (request : ReportRequest) :
    Keeps (reportIn db now scope request) :=
  ((StoreOperation.record scope (request.toCall now)).keeps db).map fun _ => []

end Handlers

/-- **A request at a route that is not answered with success leaves the tables as they were**,
whatever fails, be it in the request or in the database. -/
theorem askIn_unchanged {session : Session} {request : Request} {route : Route}
    (hstatus : (askIn db settings now session request route scope).2.status ≠ 200) :
    (askIn db settings now session request route scope).1.store = session.store := by
  cases route with
  | queryLogs | queryEntries =>
    exact handleIn_unchanged (keeps_queryIdsIn db settings scope _) hstatus
  | countLogs => exact handleIn_unchanged (keeps_countLogsIn db settings scope) hstatus
  | explainLogs => exact handleIn_unchanged (keeps_explainLogsIn db settings scope) hstatus
  | updateTags => exact handleIn_unchanged (keeps_updateLogTagsIn db settings scope) hstatus
  | report => exact handleIn_unchanged (keeps_reportIn db scope now) hstatus
  | tagNames => exact conclude_unchanged ((Database.reads_query _).keeps.map _) hstatus

/-! ### Requests without faults -/

section Faultless

variable (hdb : db.Faultless)
include hdb

/-- Without faults a request compiles to the query that it has over the store. -/
theorem does_compileIn (filters : List Filter) (selection : Option Selection) :
    Does (compileIn db settings subject scope filters selection) store
      ((compileFor settings store subject scope filters selection).map fun query =>
        (query, store)) := by
  have hknown : Does (knownNames db settings subject scope) store
      (.ok (if settings.compiler.unknownFields = .reject ∧ subject.tags.isSome then
        store.tagNames scope else .empty, store)) := by
    unfold knownNames
    split
    · exact Database.does_query hdb _
    · exact does_pure _
  exact hknown.bind (does_ofExcept _)

/-- What is done after a compilation is done with the query of the request. -/
theorem does_afterCompile {filters : List Filter} {selection : Option Selection}
    {next : Query → Program Members} {result : Query → Except Error (Members × Store)}
    (hnext : ∀ query, Does (next query) store (result query)) :
    Does (compileIn db settings subject scope filters selection >>= next) store
      (compileFor settings store subject scope filters selection >>= result) := by
  have hcompile : Does (compileIn db settings subject scope filters selection) store _ :=
    does_compileIn hdb filters selection
  cases hquery : compileFor settings store subject scope filters selection with
  | error e =>
    rw [hquery] at hcompile
    exact hcompile.bind_error
  | ok query =>
    rw [hquery] at hcompile
    exact hcompile.bind (hnext query)

omit hdb

/-- What a handler makes of a store as a result of the store: its members become a success. -/
def told (result : Except Error (Members × Store)) : Except Error (Store × Response) :=
  result.map fun (members, after) => (after, .success members)

/-- A handler that keeps the tables if it fails comes to what it does. -/
theorem conclude_of_does {handler : Program Members} {result : Except Error (Members × Store)}
    (hkeeps : Keeps handler) (hdoes : Does handler store result) (executed : Nat) :
    (conclude ⟨store, executed⟩ handler).map Session.store id = settle store (told result) := by
  rw [← hdoes executed]
  unfold conclude
  cases hrun : handler ⟨store, executed⟩ with
  | ok members next => rfl
  | error e next => rw [Prod.map, hkeeps _ e next hrun]; rfl

/-- So does a handler of a body, if there is one. -/
theorem handleIn_of_does {decode : Json.Decoder α} {request : Request}
    {handler : α → Program Members} {atOnce : α → Except Error (Store × Response)}
    (hkeeps : ∀ body, Keeps (handler body))
    (hdoes : ∀ body, ∃ result, Does (handler body) store result ∧ told result = atOnce body)
    (executed : Nat) :
    (handleIn ⟨store, executed⟩ decode request handler).map Session.store id =
      handle store decode request atOnce := by
  cases hread : readBody decode request with
  | error response => rw [handleIn, handle, hread]; rfl
  | ok body =>
    obtain ⟨result, hresult, htold⟩ := hdoes body
    rw [handleIn, hread, handle_of_read hread, ← htold]
    exact conclude_of_does (hkeeps body) hresult executed

include hdb

/-- Ids are asked for as over the store. -/
theorem does_queryIdsIn (request : FilterRequest) : ∃ result,
    Does (queryIdsIn db settings subject scope request) store result ∧
      told result = (queryIds settings store subject scope request).map fun r => (store, r) := by
  refine ⟨_, does_afterCompile hdb fun query => (Database.does_fetchIds hdb _).map _, ?_⟩
  unfold queryIds
  cases compileFor settings store subject scope request.filters request.selection with
  | error e => rfl
  | ok query =>
    dsimp only [bind, Except.bind]
    cases store.fetchIds (.select query .sqlite (page settings request)) <;> rfl

/-- Records are counted as over the store. -/
theorem does_countLogsIn (request : FilterRequest) : ∃ result,
    Does (countLogsIn db settings scope request) store result ∧
      told result = (countLogs settings store scope request).map fun r => (store, r) := by
  refine ⟨_, does_afterCompile hdb fun query => (Database.does_count hdb _).map _, ?_⟩
  unfold countLogs
  cases compileFor settings store .loggedCalls scope request.filters request.selection with
  | error e => rfl
  | ok query =>
    dsimp only [bind, Except.bind]
    cases store.count (.select query .sqlite .count) <;> rfl

/-- Statements are explained as over the store. -/
theorem does_explainLogsIn (request : FilterRequest) : ∃ result,
    Does (explainLogsIn db settings scope request) store result ∧
      told result = (explainLogs settings store scope request).map fun r => (store, r) := by
  refine ⟨_, does_afterCompile hdb fun query => does_pure _, ?_⟩
  unfold explainLogs
  cases compileFor settings store .loggedCalls scope request.filters request.selection <;> rfl

/-- Tags are updated as over the store. -/
theorem does_updateLogTagsIn (request : UpdateRequest) : ∃ result,
    Does (updateLogTagsIn db settings scope request) store result ∧
      told result = updateLogTags settings store scope request := by
  refine ⟨_, does_afterCompile hdb fun query => (Database.does_updateTags hdb _ _).map _, ?_⟩
  unfold updateLogTags
  cases compileFor settings store .loggedCalls scope request.filters none with
  | error e => rfl
  | ok query =>
    dsimp only [bind, Except.bind]
    cases store.updateTags (.select query .sqlite .ids) request.tags <;> rfl

/-- Calls are recorded as over the store. -/
theorem does_reportIn (h : store.WellFormed) (request : ReportRequest) : ∃ result,
    Does (reportIn db now scope request) store result ∧
      told result = report store now scope request := by
  refine ⟨_, (Database.does_record hdb h scope (request.toCall now)).map fun _ => [], ?_⟩
  unfold report
  cases store.record scope (request.toCall now) <;> rfl

/-- **Without faults a route answers as it does over the store**, and leaves the same tables. -/
theorem askIn_faultless (h : store.WellFormed) (executed : Nat) (request : Request)
    (route : Route) :
    (askIn db settings now ⟨store, executed⟩ request route scope).map Session.store id =
      ask settings now store request route scope := by
  cases route with
  | queryLogs | queryEntries =>
    exact handleIn_of_does (keeps_queryIdsIn db settings scope _) (does_queryIdsIn hdb) executed
  | countLogs =>
    exact handleIn_of_does (keeps_countLogsIn db settings scope) (does_countLogsIn hdb) executed
  | explainLogs =>
    exact handleIn_of_does (keeps_explainLogsIn db settings scope) (does_explainLogsIn hdb)
      executed
  | updateTags =>
    exact handleIn_of_does (keeps_updateLogTagsIn db settings scope) (does_updateLogTagsIn hdb)
      executed
  | report =>
    exact handleIn_of_does (keeps_reportIn db scope now) (does_reportIn hdb h) executed
  | tagNames =>
    exact conclude_of_does ((Database.reads_query _).keeps.map _)
      ((Database.does_query hdb _).map _) executed

end Faultless

/-- The database in which no statement fails of itself. -/
def calm : Database := ⟨fun _ => none, .entryExists⟩

/-- A request that is not answered with success leaves a well-formed store as it was. -/
theorem respond_unchanged (h : store.WellFormed) {request : Request}
    (hstatus : (respond settings now store request).2.status ≠ 200) :
    (respond settings now store request).1 = store := by
  rcases respond_cases request with ⟨response, hsame⟩ | ⟨route, scope, -, -, hask⟩
  · rw [hsame]
  · -- The store is a session in which no statement fails.
    have hcalm : (askIn calm settings now ⟨store, 0⟩ request route scope).map Session.store id =
        ask settings now store request route scope :=
      askIn_faultless (fun _ => rfl) h 0 request route
    rw [hask, ← hcalm] at hstatus ⊢
    exact askIn_unchanged hstatus

/-- **Failures leave the store exactly as it was.** Over every reachable store, whichever
statements of the database fail and in whatever way, an operation that fails and a request that
is not answered with success leave all tables unchanged. If no statement fails of itself, then an
operation has the outcome that it has over the store, and so does a request. -/
theorem failures_change_nothing (hstore : store.Reachable) :
    (∀ (db : Database) (executed : Nat) (α : Type) (operation : StoreOperation α) (e : Error)
      (after : Session), operation.program db ⟨store, executed⟩ = .error e after →
        after.store = store) ∧
    (∀ (db : Database) (settings : Settings) (now : Timestamp) (executed : Nat)
      (request : Request) (route : Route) (scope : String),
        (askIn db settings now ⟨store, executed⟩ request route scope).2.status ≠ 200 →
        (askIn db settings now ⟨store, executed⟩ request route scope).1.store = store) ∧
    (∀ (settings : Settings) (now : Timestamp) (request : Request),
      (respond settings now store request).2.status ≠ 200 →
        (respond settings now store request).1 = store) ∧
    ∀ db : Database, db.Faultless →
      (∀ (α : Type) (operation : StoreOperation α),
        Does (operation.program db) store (operation.perform store)) ∧
      ∀ (settings : Settings) (now : Timestamp) (executed : Nat) (request : Request)
        (route : Route) (scope : String),
        (askIn db settings now ⟨store, executed⟩ request route scope).map Session.store id =
          ask settings now store request route scope := by
  have h := hstore.wellFormed
  refine ⟨fun db executed α operation e after => ?_, fun db settings now executed request route
    scope => askIn_unchanged, fun settings now request => respond_unchanged h, fun db hdb =>
      ⟨fun α operation => operation.does_perform hdb h, fun settings now executed request route
        scope => askIn_faultless hdb h executed request route⟩⟩
  exact operation.keeps db ⟨store, executed⟩ e after

/-- A database whose fourth statement fails. -/
def failsAtFourth : Database :=
  ⟨fun position => if position = 3 then some .noRows else none, .entryExists⟩

/-- A call with a response, of which nothing is recorded yet. -/
def thirdCall : CallReport where
  id := "c"
  model := none
  requestedAt := Subject.newYear
  response := some ⟨.null, none, some 200, none⟩
  tags := .empty

/-- A report of a call whose id is taken. -/
def reportAgain : Request :=
  ⟨"POST", "/v1/projects/q/report", some "application/json", "\x7b\"id\":\"a\"\x7d"⟩

/-- A third call is written before the insertion of its response fails, and is gone after it. A
report of a call that is recorded, even in another project, changes nothing either. -/
theorem failures_twoCalls :
    (∃ between, failsAtFourth.recordSteps "p" thirdCall ⟨Subject.twoCalls, 1⟩ =
        .error .noRows between ∧ between.store.calls.length = 3) ∧
      (∃ after, (StoreOperation.record "p" thirdCall).program failsAtFourth
          ⟨Subject.twoCalls, 0⟩ = .error .noRows after ∧ after.store = Subject.twoCalls) ∧
      (respond {} Subject.newYear Subject.twoCalls reportAgain).1 = Subject.twoCalls := by
  obtain ⟨hoperation, -, hrequest, -⟩ := failures_change_nothing Subject.reachable_twoCalls
  refine ⟨⟨_, rfl, by decide⟩, ⟨_, rfl, ?_⟩, hrequest {} _ reportAgain (by decide +kernel)⟩
  exact hoperation failsAtFourth 0 Unit (.record "p" thirdCall) .noRows _ rfl

end LogFilter.Http
