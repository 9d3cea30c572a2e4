import LogFilter.Proofs.PlannedOrder
import LogFilter.Proofs.ProjectRequests

/-!
# Isolation of Projects

Projects share one store and one service, and nobody checks who asks. This module shows that
they are nevertheless isolated as long as no two of them use one call id: whatever is requested
for other projects or for datasets, and whatever rows these have, the answers to the requests
of a project are those that it would get if it were alone.

There is one exception. A pattern that is too long fails at the first row that it is compared
with, and the database may compare it with a response before it looks at the project of the
call. Only a request with such a pattern can be answered differently, and only by that failure.

The statement compares two runs of the service, one with everything and one with the requests
and the rows of one project only. The runs are kept together by a simulation: the second store
is at every time the part of the project in the first one.

## Main results

* `seenAlike_respond`: a request of a project is answered from its part as from the whole.
* `respond_ofProject_of_not_concerns`: other requests leave the part of a project as it is.
* `serve_alike`: whole runs of the service keep projects isolated.
* `serve_long_pattern_ne`: they do not where a pattern is too long.
-/

namespace LogFilter.Http

open Sql

/-! ### Runs of the service -/

/-- A request with the time at which it **arrives**. -/
structure Arrival where
  time : Timestamp
  request : Request

/-- The service **serves** requests one after the other, each on the store that the one before
it left: every arrival with the response to it. -/
def serve (settings : Settings) : Store → List Arrival → List (Arrival × Response)
  | _, [] => []
  | store, arrival :: rest =>
      let (next, response) := respond settings arrival.time store arrival.request
      (arrival, response) :: serve settings next rest

/-- The first arrival is answered, and the others from the store that it left. -/
theorem serve_cons (settings : Settings) (store : Store) (arrival : Arrival)
    (rest : List Arrival) :
    serve settings store (arrival :: rest) =
      (arrival, (respond settings arrival.time store arrival.request).2) ::
        serve settings (respond settings arrival.time store arrival.request).1 rest :=
  rfl

/-- Two arrivals are **answered alike** if they are the same one and the responses are alike. -/
def AnsweredAlike (settings : Settings) (a b : Arrival × Response) : Prop :=
  a.1 = b.1 ∧ Alike settings a.1.request a.2 b.2

/-- Whether a project **uses a call id**: it has such a call, or one is reported for it. -/
def UsesId (store : Store) (arrivals : List Arrival) (project id : String) : Prop :=
  store.owns project id = true ∨
    ∃ arrival ∈ arrivals, arrival.request.reported? = some (project, id)

/-- Whether **no call id is used by two projects**. -/
def ExclusiveIds (store : Store) (arrivals : List Arrival) : Prop :=
  ∀ id project other, UsesId store arrivals project id → UsesId store arrivals other id →
    project = other

section Run

variable {settings : Settings} {store : Store} {arrival : Arrival} {rest : List Arrival}
  {project : String}

/-- What one request leaves is well formed. -/
theorem respond_wellFormed (settings : Settings) (h : store.WellFormed) (now : Timestamp)
    (request : Request) :
    (respond settings now store request).1.WellFormed := by
  rcases respond_cases request with ⟨response, hsame⟩ | ⟨route, scope, -, -, hask⟩
  · rw [hsame]
    exact h
  · rw [hask]
    exact (ask_writes settings now store request route scope).wellFormed h

/-- A request that reports a call is asked at the route of reports with a body. -/
theorem reported?_eq_some {request : Request} {body : ReportRequest}
    (haddress : request.address? = some (.report, project))
    (hmethod : request.method = Route.report.method)
    (hbody : readBody ReportRequest.decode request = .ok body) :
    request.reported? = some (project, body.id) := by
  simp only [Request.reported?, haddress, hbody, hmethod, if_true]

/-- After one request no ids are used but those that were to be used before it. -/
theorem usesId_of_respond {id : String}
    (h : UsesId (respond settings arrival.time store arrival.request).1 rest project id) :
    UsesId store (arrival :: rest) project id := by
  rcases h with howns | ⟨later, hmem, hreported⟩
  · rcases respond_cases arrival.request with ⟨response, hsame⟩ | ⟨route, scope, haddress,
      hmethod, hask⟩
    · rw [hsame] at howns
      exact .inl howns
    · rw [hask] at howns
      have hwrites := ask_writes settings arrival.time store arrival.request route scope
      rcases hwrites.owns howns with hold | ⟨rfl, rfl, body, hbody, rfl⟩
      · exact .inl hold
      · exact .inr ⟨arrival, List.mem_cons_self, reported?_eq_some haddress hmethod hbody⟩
  · exact .inr ⟨later, List.mem_cons_of_mem _ hmem, hreported⟩

/-- One request keeps ids exclusive. -/
theorem ExclusiveIds.respond (settings : Settings) (h : ExclusiveIds store (arrival :: rest)) :
    ExclusiveIds (respond settings arrival.time store arrival.request).1 rest :=
  fun id project other hproject hother =>
    h id project other (usesId_of_respond hproject) (usesId_of_respond hother)

/-- **A request of the project** is answered from its part as from the whole, and does the same
to both. -/
theorem seenAlike_respond (h : store.WellFormed) (hexclusive : ExclusiveIds store (arrival :: rest))
    (hconcerns : arrival.request.concerns project = true) :
    SeenAlike settings arrival.request project
      (respond settings arrival.time (store.ofProject project) arrival.request)
      (respond settings arrival.time store arrival.request) := by
  rcases respond_cases arrival.request with ⟨response, hsame⟩ | ⟨route, scope, haddress,
    hmethod, hask⟩
  · rw [hsame, hsame]
    exact ⟨rfl, .inl rfl⟩
  · rw [Request.concerns, haddress, Option.all_some, Bool.and_eq_true, bne_iff_ne,
      beq_iff_eq] at hconcerns
    obtain ⟨hroute, rfl⟩ := hconcerns
    rw [hask, hask]
    refine seenAlike_ask h haddress hroute ?_
    rintro rfl body hbody call hcall hid
    refine hexclusive body.id _ _ (.inl (Store.owns_iff.mpr ⟨call, hcall, hid, rfl⟩)) ?_
    exact .inr ⟨arrival, List.mem_cons_self, reported?_eq_some haddress hmethod hbody⟩

/-- **Any other request** leaves the part of the project as it is. -/
theorem respond_ofProject_of_not_concerns (h : store.WellFormed)
    (hother : arrival.request.concerns project = false) :
    (respond settings arrival.time store arrival.request).1.ofProject project =
      store.ofProject project := by
  rcases respond_cases arrival.request with ⟨response, hsame⟩ | ⟨route, scope, haddress, -, hask⟩
  · rw [hsame]
  · rw [Request.concerns, haddress, Option.all_some] at hother
    rw [hask]
    exact (ask_writes settings arrival.time store arrival.request route scope).ofProject_eq h
      hother

/-- **Projects are isolated.** As long as no call id is used by two projects, the answers to the
requests of a project do not depend on the rows and the requests of other projects and of
datasets: they are alike without any of them. -/
theorem serve_alike (settings : Settings) {store : Store} (hstore : store.Reachable)
    {arrivals : List Arrival} (hexclusive : ExclusiveIds store arrivals) (project : String) :
    List.Forall₂ (AnsweredAlike settings)
      ((serve settings store arrivals).filter fun answered =>
        answered.1.request.concerns project)
      (serve settings (store.ofProject project)
        (arrivals.filter fun arrival => arrival.request.concerns project)) := by
  have h := hstore.wellFormed
  clear hstore
  induction arrivals generalizing store with
  | nil => exact .nil
  | cons arrival rest ih =>
    have hnext := ih (hexclusive.respond settings)
      (respond_wellFormed settings h arrival.time arrival.request)
    simp only [serve_cons, List.filter_cons]
    cases hconcerns : arrival.request.concerns project with
    | true =>
      have hseen : SeenAlike settings _ _ _ _ := seenAlike_respond h hexclusive hconcerns
      simp only [if_true, serve_cons, hseen.1]
      exact .cons ⟨rfl, hseen.2⟩ hnext
    | false =>
      have hpart : (respond settings _ _ _).1.ofProject project = store.ofProject project :=
        respond_ofProject_of_not_concerns h hconcerns
      rw [hpart] at hnext
      simpa only [Bool.false_eq_true, if_false] using hnext

end Run

/-- A store that two projects share. -/
def sharedStore : Store :=
  Store.empty.run
    [.record "p" ⟨"a", none, Subject.newYear, none, .empty⟩,
      .record "q" ⟨"b", none, Subject.newYear, none, ⟨[("env", some "x")], by decide⟩⟩]

/-- Requests of the two projects: a report, a bulk update and a question about datasets, then
two questions of the other project. -/
def sharedArrivals : List Arrival :=
  [("POST", "/v1/projects/q/report", "\x7b\"id\":\"c\",\"tags\":\x7b\"a\":1\x7d\x7d"),
    ("POST", "/v1/projects/q/logs/update-tags", "[[],\x7b\"env\":null\x7d]"),
    ("POST", "/v1/datasets/p/entries/query", "[]"),
    ("GET", "/v1/projects/p/tags", ""),
    ("POST", "/v1/projects/p/logs/query", "[]")].map fun (method, target, body) =>
      ⟨Subject.newYear, ⟨method, target, some "application/json", body⟩⟩

/-- No id is used by both projects. -/
theorem exclusiveIds_shared : ExclusiveIds sharedStore sharedArrivals := by
  have hcalls : sharedStore.calls.map (fun call => (call.projectId, call.id)) =
      [("p", "a"), ("q", "b")] := by decide +kernel
  have hreports : sharedArrivals.filterMap (fun arrival => arrival.request.reported?) =
      [("q", "c")] := by decide +kernel
  have huses (project id : String) (h : UsesId sharedStore sharedArrivals project id) :
      (project, id) ∈ [("p", "a"), ("q", "b"), ("q", "c")] := by
    rcases h with howns | ⟨arrival, hmem, hreported⟩
    · obtain ⟨call, hcall, rfl, rfl⟩ := Store.owns_iff.mp howns
      have hused : (call.projectId, call.id) ∈
          sharedStore.calls.map fun call => (call.projectId, call.id) := List.mem_map_of_mem hcall
      rw [hcalls] at hused
      exact List.mem_append_left [("q", "c")] hused
    · have hused : (project, id) ∈
          sharedArrivals.filterMap fun arrival => arrival.request.reported? :=
        List.mem_filterMap.mpr ⟨arrival, hmem, hreported⟩
      rw [hreports] at hused
      exact List.mem_append_right [("p", "a"), ("q", "b")] hused
  intro id project other hproject hother
  have hboth := And.intro (huses project id hproject) (huses other id hother)
  simp only [List.mem_cons, Prod.mk.injEq, List.not_mem_nil, or_false] at hboth
  obtain ⟨⟨rfl, rfl⟩ | ⟨rfl, rfl⟩ | ⟨rfl, rfl⟩, ⟨rfl, h⟩ | ⟨rfl, h⟩ | ⟨rfl, h⟩⟩ := hboth <;>
    first | rfl | exact absurd h (by decide)

/-- The two questions of the one project are answered as if it were alone. -/
theorem serve_shared : ExclusiveIds sharedStore sharedArrivals ∧
    List.Forall₂ (AnsweredAlike {})
      ((serve {} sharedStore sharedArrivals).filter fun answered =>
        answered.1.request.concerns "p")
      (serve {} (sharedStore.ofProject "p")
        (sharedArrivals.filter fun arrival => arrival.request.concerns "p")) ∧
    (sharedArrivals.filter fun arrival => arrival.request.concerns "p").length = 2 := by
  refine ⟨exclusiveIds_shared, ?_, by decide +kernel⟩
  exact serve_alike {} ⟨_, _, rfl⟩ exclusiveIds_shared "p"

/-! ### A pattern that is too long -/

/-- A set made of one name. -/
theorem ofList_singleton (name : String) :
    NameSet.ofList [name] = ⟨[name], List.pairwise_singleton _ _⟩ := by
  simp only [NameSet.ofList, lastByName, sortByName, List.map_cons, List.map_nil,
    List.mergeSort_singleton, lastOfRuns]

/-- Inside a string the letters of a JSON text are taken as they are. -/
theorem tokensFrom_letters (count : Nat) (done rest : List Char) :
    Json.tokensFrom (.string ⟨done, false, none⟩) (List.replicate count 'a' ++ rest) =
      Json.tokensFrom (.string ⟨List.replicate count 'a' ++ done, false, none⟩) rest := by
  induction count generalizing done with
  | zero => rfl
  | succ count ih =>
    have hpush : List.replicate (count + 1) 'a' ++ done =
        List.replicate count 'a' ++ 'a' :: done := by
      rw [List.replicate_succ', List.append_assoc]
      rfl
    rw [hpush, ← ih]
    rfl

/-- A query of a project that names a call and searches its response for one letter over and
over. -/
def letterQuery (count : Nat) : Request :=
  ⟨"POST", "/v1/projects/p/logs/query", some "application/json",
    "[[[\"Response\",\"CONTAINS\",\"" ++ letters count ++ "\"]],[false,[\"b\"]]]"⟩

/-- What the request asks for. -/
def letterBody (count : Nat) : FilterRequest where
  filters := [⟨"Response", "CONTAINS", some (letters count)⟩]
  selection := some ⟨false, ⟨["b"], List.pairwise_singleton _ _⟩, .empty⟩

/-- The condition of its filter. -/
def letterCondition (count : Nat) : Predicate :=
  Comparator.contains.predicate .active (letters count) KnownField.response.operand

/-- Its query. -/
def letterPlan (count : Nat) : Query :=
  Subject.loggedCalls.assemble {} "p" (letterBody count).selection [⟨none, letterCondition count⟩]

/-- The tokens of the request. -/
theorem tokens_letterQuery (count : Nat) : Json.tokens (letterQuery count).body =
    [.beginArray, .beginArray, .beginArray, .string (some "Response"), .comma,
      .string (some "CONTAINS"), .comma, .string (some (letters count)), .endArray, .endArray,
      .comma, .beginArray, .boolean false, .comma, .beginArray, .string (some "b"), .endArray,
      .endArray, .endArray] := by
  have htext : (letterQuery count).body.toList = "[[[\"Response\",\"CONTAINS\",\"".toList ++
      (List.replicate count 'a' ++ "\"]],[false,[\"b\"]]]".toList) := by
    have hletters : (letters count).toList = List.replicate count 'a' := String.toList_ofList
    rw [letterQuery, String.toList_append, String.toList_append, List.append_assoc, hletters]
  have hstart (rest : List Char) :
      Json.tokensFrom .between ("[[[\"Response\",\"CONTAINS\",\"".toList ++ rest) =
        [.beginArray, .beginArray, .beginArray, .string (some "Response"), .comma,
          .string (some "CONTAINS"), .comma] ++
          Json.tokensFrom (.string ⟨[], false, none⟩) rest := rfl
  have hend (part : Json.StringPart) :
      Json.tokensFrom (.string part) "\"]],[false,[\"b\"]]]".toList =
        [.string part.content, .endArray, .endArray, .comma, .beginArray, .boolean false, .comma,
          .beginArray, .string (some "b"), .endArray, .endArray, .endArray] := rfl
  have hcontent : Json.StringPart.content ⟨List.replicate count 'a' ++ [], false, none⟩ =
      some (letters count) := by
    rw [Json.StringPart.content, List.append_nil, List.reverse_replicate]
    rfl
  rw [Json.tokens, htext, hstart, tokensFrom_letters, hend, hcontent]
  rfl

/-- The request can be read as long as its body is not too large. -/
theorem readBody_letterQuery {count : Nat} (h : count + 44 ≤ maxBodySize) :
    readBody FilterRequest.decode (letterQuery count) = .ok (letterBody count) := by
  have hsize : (letterQuery count).body.utf8ByteSize = 26 + count + 18 := by
    rw [letterQuery, String.utf8ByteSize_append, String.utf8ByteSize_append, utf8ByteSize_letters]
    rfl
  have hread : Json.readStart FilterRequest.decode (letterQuery count).body =
      .ok (letterBody count) := by
    rw [Json.readStart, Json.Document.ofText, tokens_letterQuery, letterBody, ← ofList_singleton]
    rfl
  have hjson : ((letterQuery count).contentType.bind MediaType.read?).any MediaType.isJson =
      true := by
    change ((some "application/json" : Option String).bind MediaType.read?).any _ = _
    decide +kernel
  rw [readBody, hjson, hread, if_neg (by decide), if_neg (by omega)]
  rfl

/-- The request is addressed to the project. -/
theorem address?_letterQuery (count : Nat) :
    (letterQuery count).address? = some (.queryLogs, "p") := by
  change ((Route.find? (pathOf "/v1/projects/p/logs/query")).bind fun found =>
    (percentDecode? found.2).map fun scope => (found.1, scope)) = _
  decide +kernel

/-- The response to the request tells the ids that its query selects. -/
theorem respond_letterQuery {count : Nat} (h : count + 44 ≤ maxBodySize) (now : Timestamp)
    (store : Store) :
    respond {} now store (letterQuery count) =
      settle store ((queryIds {} store .loggedCalls "p" (letterBody count)).map
        fun response => (store, response)) := by
  rw [respond_of_address rfl (address?_letterQuery count), ask,
    handle_of_read (readBody_letterQuery h)]

/-- The request compiles to its query. -/
theorem compileFor_letterBody {count : Nat} (h : 0 < count) (store : Store) :
    compileFor {} store .loggedCalls "p" (letterBody count).filters (letterBody count).selection =
      .ok (letterPlan count) := by
  have hspecified : Filter.specified? ⟨"Response", "CONTAINS", some (letters count)⟩ =
      some (letters count) := Filter.specified?_of_pos (by rwa [utf8ByteSize_letters])
  have hadds : Subject.loggedCalls.Adds {} 0 ⟨"Response", "CONTAINS", some (letters count)⟩
      (some ⟨none, letterCondition count⟩) := .column hspecified rfl rfl
  exact Subject.compile_eq_ok_iff.mpr ⟨_, .cons hadds .nil, rfl⟩

/-- The ids that the query selects are those of its rows. -/
theorem queryIds_letterBody {count : Nat} (h : 0 < count) (store : Store) :
    queryIds {} store .loggedCalls "p" (letterBody count) = do
      (letterPlan count).scan store.engine store.tables (.page 1000 0)
      let ids ← ((letterPlan count).result store.tables (.page 1000 0)).texts
      return .success [("ids", textArray ids)] := by
  have hcheck : (letterPlan count).check (.page 1000 0) = .ok () := rfl
  have hpage : page {} (letterBody count) = .page 1000 0 := rfl
  rw [queryIds, compileFor_letterBody h, hpage]
  dsimp only [bind, Except.bind]
  rw [Store.fetchIds, Statement.execute, Query.execute, hcheck]
  cases (letterPlan count).scan store.engine store.tables (.page 1000 0) <;> rfl

/-- A store with one call, which another project has. -/
def foreignStore : Store :=
  Store.empty.run
    [.record "q" ⟨"b", none, Subject.newYear, some ⟨.null, none, some 200, none⟩, .empty⟩]

/-- The condition has a pattern that is too long if there are too many letters. -/
theorem isTooLong_letterCondition {count : Nat} (h : maxPatternBytes ≤ count) :
    (letterCondition count).isTooLong = true :=
  decide_eq_true (maxPatternBytes_lt_containing (by rwa [utf8ByteSize_letters]))

/-- The page that the request asks for is bound as it stands. -/
theorem clamped_page : (Projection.page 1000 0).clamped = .page 1000 0 := rfl

/-- With a single id to look for, the responses lead. -/
theorem aliasesInTurn_letterPlan (count : Nat) :
    (letterPlan count).aliasesInTurn (.page 1000 0) = ["lcmr", "lc"] := by
  have hids : (letterPlan count).predicates.findSome? (Predicate.ids? (letterPlan count).id) =
      some [.text "b"] := rfl
  have hresponse : (letterPlan count).weight "lcmr" = 2 := rfl
  have hcall : (letterPlan count).weight (letterPlan count).tableAlias = 1 := rfl
  have hleads : (letterPlan count).leads (.page 1000 0) "lcmr" = true := by
    rw [Query.leads_of_ids rfl hids, hresponse, hcall]
    decide +kernel
  have hjoins : (letterPlan count).joins.map LeftJoin.tableAlias = ["lcmr"] := rfl
  rw [Query.aliasesInTurn_of_join hjoins, if_pos hleads]
  rfl

/-- The query fails at the response to the call: its project is looked at later. -/
theorem scan_foreignStore {count : Nat} (h : maxPatternBytes ≤ count) :
    (letterPlan count).scan foreignStore.engine foreignStore.tables (.page 1000 0) =
      .error .patternTooLong := by
  have hreachable : foreignStore.Reachable := ⟨_, _, rfl⟩
  have hpositive : 0 < count := Nat.lt_of_lt_of_le (by decide) h
  have hplace (column : Column) (value : Scalar) :
      (letterPlan count).turn (.page 1000 0) (.eq (.column column) value) =
        ((letterPlan count).aliasesInTurn (.page 1000 0)).idxOf column.tableAlias + 2 := rfl
  have hletters : (letterPlan count).turn (.page 1000 0) (letterCondition count) =
      ((letterPlan count).aliasesInTurn (.page 1000 0)).idxOf "lcmr" + 2 := rfl
  refine Subject.scan_planned_eq_error hreachable.wellFormed rfl
    (compileFor_letterBody hpositive foreignStore) rfl List.mem_cons_self ?_
  rw [clamped_page]
  refine Query.failsInTurn_inTurn (List.mem_cons_of_mem _ List.mem_cons_self)
    (isTooLong_letterCondition h) ?_
  intro other hmem hturn
  have hpredicates : (letterPlan count).predicates =
      [.eq (.column ⟨"lc", "projectId"⟩) (.text "p"), letterCondition count,
        .isIn (.column ⟨"lc", "id"⟩) [.text "b"],
        .eq (.column ⟨"lcmr", "statusCode"⟩) (.integer 200)] := rfl
  rw [hpredicates] at hmem
  simp only [List.mem_cons, List.not_mem_nil, or_false] at hmem
  rcases hmem with rfl | rfl | rfl | rfl
  · -- The condition of the project comes after the pattern.
    rw [hplace, hletters, aliasesInTurn_letterPlan] at hturn
    exact absurd hturn (by decide)
  · exact .inl (isTooLong_letterCondition h)
  · exact .inr rfl
  · exact .inr rfl

/-- No id is used by two projects: the request reports nothing. -/
theorem exclusiveIds_foreign (count : Nat) :
    ExclusiveIds foreignStore [⟨Subject.newYear, letterQuery count⟩] := by
  have huses {project id : String}
      (h : UsesId foreignStore [⟨Subject.newYear, letterQuery count⟩] project id) :
      project = "q" := by
    rcases h with howns | ⟨arrival, hmem, hreported⟩
    · obtain ⟨call, hcall, -, rfl⟩ := Store.owns_iff.mp howns
      obtain rfl := List.mem_singleton.mp hcall
      rfl
    · obtain rfl := List.mem_singleton.mp hmem
      rw [Request.reported?, address?_letterQuery] at hreported
      cases hreported
  exact fun id project other hproject hother => (huses hproject).trans (huses hother).symm

/-- With too many letters the request fails, and without the call of the other project it does
not. -/
theorem serve_letterQuery_ne {count : Nat} (hlong : maxPatternBytes ≤ count)
    (hfits : count + 44 ≤ maxBodySize) :
    (serve {} foreignStore [⟨Subject.newYear, letterQuery count⟩]).filter
        (fun answered => answered.1.request.concerns "p") ≠
      serve {} (foreignStore.ofProject "p")
        ([⟨Subject.newYear, letterQuery count⟩].filter
          fun arrival : Arrival => arrival.request.concerns "p") := by
  have hconcerns : (letterQuery count).concerns "p" = true := by
    rw [Request.concerns, address?_letterQuery]
    rfl
  have hpositive : 0 < count := Nat.lt_of_lt_of_le (by decide) hlong
  have hwhole : queryIds {} foreignStore .loggedCalls "p" (letterBody count) =
      .error .patternTooLong := by
    rw [queryIds_letterBody hpositive, scan_foreignStore hlong]
    rfl
  have hpart : queryIds {} (foreignStore.ofProject "p") .loggedCalls "p" (letterBody count) =
      .ok (.success [("ids", textArray [])]) := by
    have hreachable : foreignStore.Reachable := ⟨_, _, rfl⟩
    have hstore := hreachable.wellFormed.ofProject "p"
    have hscan : (letterPlan count).scan (foreignStore.ofProject "p").engine
        (foreignStore.ofProject "p").tables (.page 1000 0) = .ok () :=
      Subject.scan_planned_eq_ok hstore rfl (compileFor_letterBody hpositive foreignStore)
        fun record hrecord => by cases hrecord
    have hrows : (letterPlan count).rows (foreignStore.ofProject "p").tables = [] := rfl
    rw [queryIds_letterBody hpositive, hscan]
    simp only [Query.result, Projection.clamped, Query.idCells, hrows, Query.sort,
      List.mergeSort_nil, List.map_nil, List.drop_nil, List.take_nil]
    rfl
  intro heq
  simp only [serve, List.filter_cons, List.filter_nil, hconcerns, if_true,
    respond_letterQuery hfits, hwhole, hpart] at heq
  have hstatus : [500] = [200] :=
    congrArg (List.map fun answered : Arrival × Response => answered.2.status) heq
  exact absurd hstatus (by decide)

/-- **A pattern that is too long breaks the isolation**: a request that names the call of another
project and has such a pattern fails, and would find nothing if the project were alone. -/
theorem serve_long_pattern_ne : foreignStore.Reachable ∧
    ExclusiveIds foreignStore [⟨Subject.newYear, letterQuery maxPatternBytes⟩] ∧
    (serve {} foreignStore [⟨Subject.newYear, letterQuery maxPatternBytes⟩]).filter
        (fun answered => answered.1.request.concerns "p") ≠
      serve {} (foreignStore.ofProject "p")
        ([⟨Subject.newYear, letterQuery maxPatternBytes⟩].filter
          fun arrival : Arrival => arrival.request.concerns "p") :=
  ⟨⟨_, _, rfl⟩, exclusiveIds_foreign _, serve_letterQuery_ne (Nat.le_refl _) (by decide)⟩

end LogFilter.Http
