import LogFilter.Proofs.Pages
import LogFilter.Proofs.ProjectIsolation

/-!
# Explanations

The explain route tells the statement of a request and leaves it at that; the query route runs
the same statement and the count route counts its rows. All three read the body and compile it
in the same way, so a body that is at fault is answered alike by all of them. Once it compiles,
what is explained is what is run: the parameters are those of the statement that the query route
runs, whatever the dialect of the settings, and so is the text if that is the dialect of the
store.

An explanation is had of every query that compiles. Whether the statement can be run is seen only
when it is: a query that exceeds a limit of the database is explained, and fails when asked.

## Main definitions

* `OneBody`: three requests that put one body to the three routes.
* `explanation`: what the explain route tells of a query.
* `RoutesAgree`: how the answers to the three are related.

## Main results

* `Subject.yields_page`: a page of a compiled query is had, or the query exceeds a limit.
* `Http.routesAgree`: the three routes agree.
* `Http.explains_letterQuery`: a request that fails is explained.
-/

namespace LogFilter

open Sql

/-- **A page of a compiled query** is had, or the query exceeds a limit. -/
theorem Subject.yields_page {subject : Subject} {options : Options} {scopeId : String}
    {filters : List Filter} {selection : Option Selection} {store : Store} {query : Query}
    (hstore : store.WellFormed)
    (hquery : subject.compile options scopeId filters selection = .ok query)
    (limit offset : Nat) : ∃ ids, query.Yields (.page limit offset)
      (store.fetchIds (.select query .sqlite (.page limit offset))) ids := by
  rw [fetchIds_page_compile_eq hstore hquery]
  exact ⟨_, yields_compile hquery _ _ (.page limit offset) _⟩

/-- The settings with another **dialect**. -/
def Settings.withDialect (settings : Settings) (dialect : Dialect) : Settings :=
  { settings with compiler := { settings.compiler with dialect := dialect } }

namespace Http

/-! ### One body at three routes -/

/-- Whether a request is **posted to a route** of a project. -/
structure Request.PostedTo (request : Request) (route : Route) (project : String) : Prop where
  method : request.method = "POST"
  address : request.address? = some (route, project)

/-- Whether two requests have the same body, of the same type. -/
def Request.SameBody (request other : Request) : Prop :=
  request.contentType = other.contentType ∧ request.body = other.body

/-- Requests with the same body are read alike. -/
theorem readBody_of_sameBody {α : Type} {decode : Json.Decoder α} {request other : Request}
    (h : request.SameBody other) : readBody decode request = readBody decode other := by
  rw [readBody, readBody, h.1, h.2]

/-- Whether three requests put **one body to three routes** of a project: the first asks for the
records that it matches, the second counts them, and the third has it explained. -/
structure OneBody (project : String) (asked counted explained : Request) : Prop where
  asks : asked.PostedTo .queryLogs project
  counts : counted.PostedTo .countLogs project
  explains : explained.PostedTo .explainLogs project
  counts_same : counted.SameBody asked
  explains_same : explained.SameBody asked

/-- The same request at another route of the project. -/
def letterQueryAt (route : String) (count : Nat) : Request :=
  { letterQuery count with target := "/v1/projects/p/logs/" ++ route }

/-- A request and the same one at the other routes put one body to the three routes. -/
theorem oneBody_letterQuery (count : Nat) :
    OneBody "p" (letterQuery count) (letterQueryAt "count" count)
      (letterQueryAt "explain" count) := by
  have haddress {target : String} {route : Route}
      (h : ((Route.find? (pathOf target)).bind fun found =>
        (percentDecode? found.2).map fun scope => (found.1, scope)) = some (route, "p")) :
      Request.PostedTo { letterQuery count with target := target } route "p" := ⟨rfl, h⟩
  exact {
    asks := ⟨rfl, address?_letterQuery count⟩
    counts := haddress (by decide +kernel)
    explains := haddress (by decide +kernel)
    counts_same := ⟨rfl, rfl⟩
    explains_same := ⟨rfl, rfl⟩ }

variable {settings : Settings} {now : Timestamp} {store : Store} {project : String}
  {asked counted explained : Request}

/-- A body that cannot be read is no success. -/
theorem status_of_readBody_eq_error {α : Type} {decode : Json.Decoder α} {request : Request}
    {response : Response} (h : readBody decode request = .error response) :
    response.status ≠ 200 := by
  simp only [readBody] at h
  by_cases hjson :
      (!(request.contentType.bind MediaType.read?).any MediaType.isJson) = true
  · rw [if_pos hjson] at h
    cases h
    decide
  rw [if_neg hjson] at h
  by_cases hsize : maxBodySize < request.body.utf8ByteSize
  · rw [if_pos hsize] at h
    cases h
    decide
  rw [if_neg hsize] at h
  cases hread : Json.readStart decode request.body with
  | ok body => rw [hread] at h; cases h
  | error fault =>
    rw [hread] at h
    cases h
    cases fault <;> decide

/-- No failure is a success. -/
theorem status_failure_ne (e : Error) : (Response.failure e).status ≠ 200 := by
  change Response.statusOf e ≠ 200
  unfold Response.statusOf
  split
  · decide
  split <;> decide

/-- The routes of a project at which **a body is put** to the compiler and nothing is written. -/
def Route.inquires (route : Route) : Prop :=
  route = .queryLogs ∨ route = .countLogs ∨ route = .explainLogs

/-- Each of the three requests is posted to such a route with the same body. -/
theorem OneBody.of_mem (h : OneBody project asked counted explained) {request : Request}
    (hmem : request ∈ [asked, counted, explained]) :
    request.SameBody asked ∧ ∃ route : Route, route.inquires ∧ request.PostedTo route project := by
  simp only [List.mem_cons, List.not_mem_nil, or_false] at hmem
  rcases hmem with rfl | rfl | rfl
  · exact ⟨⟨rfl, rfl⟩, _, .inl rfl, h.asks⟩
  · exact ⟨h.counts_same, _, .inr (.inl rfl), h.counts⟩
  · exact ⟨h.explains_same, _, .inr (.inr rfl), h.explains⟩

/-- What the explain route **tells of a query**: its text in a dialect, and the parameters and the
number of tag joins of the statement that the store runs. -/
def explanation (dialect : Dialect) (query : Query) (projection : Projection) : Response :=
  let executed := Statement.select query .sqlite projection
  .success
    [("dialect", .string dialect.name),
      ("sql", .string (Statement.select query dialect projection).sql),
      ("params", .array (executed.params.map Scalar.encode)),
      ("tagJoins", .integer executed.tagJoins)]

/-- The response to the outcome of a statement: a success that tells the result, or the failure. -/
def respondWith {α : Type} (tell : α → String × Json) : Except Error α → Response
  | .ok result => .success [tell result]
  | .error e => .failure e

section Posted

variable {request : Request} {route : Route} {body : FilterRequest}

/-- A posted request is asked at its route. -/
theorem Request.PostedTo.respond (h : request.PostedTo route project)
    (hroute : route.method = "POST") :
    respond settings now store request = ask settings now store request route project :=
  respond_of_address (h.method.trans hroute.symm) h.address

/-- A body that cannot be read is answered alike at all three routes. -/
theorem respond_of_unreadable (h : request.PostedTo route project) (hroute : route.inquires)
    {response : Response} (hread : readBody FilterRequest.decode request = .error response) :
    respond settings now store request = (store, response) := by
  rcases hroute with rfl | rfl | rfl <;> rw [h.respond rfl, ask, handle, hread]

/-- So is a body that does not compile. -/
theorem respond_of_faulty (h : request.PostedTo route project) (hroute : route.inquires)
    (hread : readBody FilterRequest.decode request = .ok body) {error : Error}
    (hquery : compileFor settings store .loggedCalls project body.filters body.selection =
      .error error) :
    respond settings now store request = (store, .failure error) := by
  rcases hroute with rfl | rfl | rfl <;> rw [h.respond rfl, ask, handle_of_read hread]
  · rw [queryIds, hquery]; rfl
  · rw [countLogs, hquery]; rfl
  · rw [explainLogs, hquery]; rfl

/-- A body that compiles is explained by its query, in the dialect of the settings. -/
theorem respond_explained (h : request.PostedTo .explainLogs project)
    (hread : readBody FilterRequest.decode request = .ok body) {query : Query}
    (hquery : compileFor settings store .loggedCalls project body.filters body.selection =
      .ok query) (dialect : Dialect) :
    respond (settings.withDialect dialect) now store request =
      (store, explanation dialect query (page settings body)) := by
  have hsame : compileFor (settings.withDialect dialect) store .loggedCalls project body.filters
      body.selection = .ok query := hquery
  rw [h.respond rfl, ask, handle_of_read hread, explainLogs, hsame]
  rfl

/-- A body that compiles is answered with what its query yields. -/
theorem respond_asked (h : request.PostedTo .queryLogs project)
    (hread : readBody FilterRequest.decode request = .ok body) {query : Query}
    (hquery : compileFor settings store .loggedCalls project body.filters body.selection =
      .ok query) :
    respond settings now store request = (store, respondWith (fun ids => ("ids", textArray ids))
      (store.fetchIds (.select query .sqlite (page settings body)))) := by
  rw [h.respond rfl, ask, handle_of_read hread, queryIds, hquery]
  dsimp only [bind, Except.bind]
  cases store.fetchIds (.select query .sqlite (page settings body)) <;> rfl

/-- A body that compiles is answered with the count of its query. -/
theorem respond_counted (h : request.PostedTo .countLogs project)
    (hread : readBody FilterRequest.decode request = .ok body) {query : Query}
    (hquery : compileFor settings store .loggedCalls project body.filters body.selection =
      .ok query) :
    respond settings now store request = (store,
      respondWith (fun count => ("count", .integer count))
        (store.count (.select query .sqlite .count))) := by
  rw [h.respond rfl, ask, handle_of_read hread, countLogs, hquery]
  dsimp only [bind, Except.bind]
  cases store.count (.select query .sqlite .count) <;> rfl

end Posted

/-- Whether three requests with one body are answered **according to a query**: the explanation is
that of the statement which the query route runs, in every dialect that may be set, and each of
the other two tells what the store yields. -/
structure AnsweredAccordingTo (settings : Settings) (now : Timestamp) (store : Store)
    (query : Query) (projection : Projection) (asked counted explained : Request) : Prop where
  explains : ∀ dialect, respond (settings.withDialect dialect) now store explained =
    (store, explanation dialect query projection)
  asks : respond settings now store asked = (store,
    respondWith (fun ids => ("ids", textArray ids))
      (store.fetchIds (.select query .sqlite projection)))
  counts : respond settings now store counted = (store,
    respondWith (fun count => ("count", .integer count))
      (store.count (.select query .sqlite .count)))
  /-- The statement gives ids, unless the query exceeds a limit. -/
  yields_ids : ∃ ids,
    query.Yields projection (store.fetchIds (.select query .sqlite projection)) ids
  /-- So does its count. -/
  yields_count : ∃ count, query.Yields .count (store.count (.select query .sqlite .count)) count

/-- Whether the **three routes agree** on one body: where it cannot be read, or does not compile,
all of them give the same response, which is no success, and otherwise they answer according to
the query that it compiles to. -/
structure RoutesAgree (settings : Settings) (now : Timestamp) (store : Store) (project : String)
    (asked counted explained : Request) : Prop where
  unreadable : ∀ response, readBody FilterRequest.decode asked = .error response →
    response.status ≠ 200 ∧ ∀ request ∈ [asked, counted, explained],
      respond settings now store request = (store, response)
  faulty : ∀ body error, readBody FilterRequest.decode asked = .ok body →
    compileFor settings store .loggedCalls project body.filters body.selection = .error error →
    (Response.failure error).status ≠ 200 ∧ ∀ request ∈ [asked, counted, explained],
      respond settings now store request = (store, .failure error)
  compiled : ∀ body query, readBody FilterRequest.decode asked = .ok body →
    compileFor settings store .loggedCalls project body.filters body.selection = .ok query →
    AnsweredAccordingTo settings now store query (page settings body) asked counted explained

/-- **The three routes agree** in every reachable store: they fail alike on a body that is at
fault, the explain route tells the statement of every other body, with parameters that do not
depend on the dialect, and the query route answers with exactly the ids that this statement
yields. -/
theorem routesAgree (hstore : store.Reachable) (hsame : OneBody project asked counted explained)
    (settings : Settings) (now : Timestamp) :
    RoutesAgree settings now store project asked counted explained := by
  constructor
  · intro response hread
    refine ⟨status_of_readBody_eq_error hread, fun request hmem => ?_⟩
    obtain ⟨hbody, route, hroute, hposted⟩ := hsame.of_mem hmem
    exact respond_of_unreadable hposted hroute ((readBody_of_sameBody hbody).trans hread)
  · intro body error hread hquery
    refine ⟨status_failure_ne error, fun request hmem => ?_⟩
    obtain ⟨hbody, route, hroute, hposted⟩ := hsame.of_mem hmem
    exact respond_of_faulty hposted hroute ((readBody_of_sameBody hbody).trans hread) hquery
  · intro body query hread hquery
    have hcounted := (readBody_of_sameBody hsame.counts_same).trans hread
    have hexplained := (readBody_of_sameBody hsame.explains_same).trans hread
    have hcount := Subject.count_compile_eq hstore.wellFormed hquery
    exact {
      explains := respond_explained hsame.explains hexplained hquery
      asks := respond_asked hsame.asks hread hquery
      counts := respond_counted hsame.counts hcounted hquery
      yields_ids := Subject.yields_page hstore.wellFormed hquery _ _
      yields_count := ⟨_, hcount ▸ Subject.yields_compile hquery _ _ .count _⟩ }

/-- A store with the call that the requests name, whose response has the letter that they search
for. -/
def answeredStore : Store :=
  Store.empty.run
    [.record "p" ⟨"b", none, Subject.newYear, some ⟨.null, some (.string "a"), some 200, none⟩,
      .empty⟩]

/-- The call is asked for, counted, and explained in the other dialect. -/
theorem routesAgree_letterQuery :
    respond {} Subject.newYear answeredStore (letterQuery 1) =
        (answeredStore, .success [("ids", textArray ["b"])]) ∧
      respond {} Subject.newYear answeredStore (letterQueryAt "count" 1) =
        (answeredStore, .success [("count", .integer 1)]) ∧
      respond (Settings.withDialect {} .postgres) Subject.newYear answeredStore
          (letterQueryAt "explain" 1) =
        (answeredStore, explanation .postgres (letterPlan 1) (.page 1000 0)) := by
  have hreachable : answeredStore.Reachable := ⟨_, _, rfl⟩
  have hquery := compileFor_letterBody (by decide : 0 < 1) answeredStore
  have hanswers := (routesAgree hreachable (oneBody_letterQuery 1) {} Subject.newYear).compiled _ _
    (readBody_letterQuery (by decide)) hquery
  have hpage : page {} (letterBody 1) = .page 1000 0 := rfl
  have hids : answeredStore.fetchIds (.select (letterPlan 1) .sqlite .ids) = .ok ["b"] :=
    Subject.fetchIds_compile_of_pairwise hreachable.wellFormed hquery rfl (by decide) (by decide)
  have htiled := Subject.tiledBy_of_fetchIds hreachable.wellFormed (by decide) hquery hids
  have hshort : ¬(letterPlan 1).SearchesTooLong := by decide
  refine ⟨?_, ?_, hanswers.explains .postgres⟩
  · rw [hanswers.asks, hpage, (htiled.page (by decide) 1000 0).eq_of_not hshort]
    rfl
  · rw [hanswers.counts, htiled.count.eq_of_not hshort]
    rfl

/-- **A query that fails is explained.** A request whose pattern is too long fails where it is
asked, and the same body is explained, in a store with one call. -/
theorem explains_letterQuery : foreignStore.Reachable ∧
    OneBody "p" (letterQuery maxPatternBytes) (letterQueryAt "count" maxPatternBytes)
      (letterQueryAt "explain" maxPatternBytes) ∧
    (respond {} Subject.newYear foreignStore (letterQuery maxPatternBytes)).2.status = 500 ∧
    (respond {} Subject.newYear foreignStore
      (letterQueryAt "explain" maxPatternBytes)).2.status = 200 := by
  have hsame := oneBody_letterQuery maxPatternBytes
  have hread := readBody_letterQuery (by decide : maxPatternBytes + 44 ≤ maxBodySize)
  have hquery := compileFor_letterBody (by decide : 0 < maxPatternBytes) foreignStore
  refine ⟨⟨_, _, rfl⟩, hsame, ?_, ?_⟩
  · have hfails : queryIds {} foreignStore .loggedCalls "p" (letterBody maxPatternBytes) =
        .error .patternTooLong := by
      rw [queryIds_letterBody (by decide), scan_foreignStore (Nat.le_refl _)]
      rfl
    rw [respond_letterQuery (by decide), hfails]
    rfl
  · have hexplained := (readBody_of_sameBody hsame.explains_same).trans hread
    have hanswer : respond {} Subject.newYear foreignStore
        (letterQueryAt "explain" maxPatternBytes) = (foreignStore, _) :=
      respond_explained hsame.explains hexplained hquery .sqlite
    rw [hanswer]
    rfl

end Http
end LogFilter
