import LogFilter.Http.Service
import LogFilter.Proofs.ProjectQueries

/-!
# Requests of One Project

A request is addressed to a route and a scope by its path, and everything that it can do to a
store is said once, in `Writes`: a bulk update of the calls that a query selects, or a report.
So a request for another project or for datasets leaves the part of a project as it is.

A request of the project itself does the same to that part as to the whole store, and is
answered alike (`SeenAlike`): with the same response, unless it searches for a pattern that is
too long. Such a request may fail in front of a row that the part does not have.

## Main results

* `respond_cases`: a request is answered without the store, or asked at its address.
* `ask_writes`: a request changes the store by a bulk update or a report, if at all.
* `Writes.ofProject_eq`: other requests leave the part of a project as it is.
* `seenAlike_ask`: a request of a project does the same to its part as to the whole.
-/

namespace LogFilter.Http

open Sql

/-! ### Requests and whom they concern -/

/-- The route and the scope that a request is **addressed** to, if its path leads anywhere. -/
def Request.address? (request : Request) : Option (Route × String) :=
  (Route.find? (pathOf request.target)).bind fun (route, written) =>
    (percentDecode? written).map fun scope => (route, scope)

/-- Whether a request **concerns a project**: every request does that is not addressed to
another project or to a dataset. -/
def Request.concerns (project : String) (request : Request) : Bool :=
  request.address?.all fun (route, scope) => route != .queryEntries && scope == project

/-- The project and the id of the call that a request **reports**, if it reports one. -/
def Request.reported? (request : Request) : Option (String × String) :=
  match request.address?, readBody ReportRequest.decode request with
  | some (.report, project), .ok body =>
      if request.method = Route.report.method then some (project, body.id) else none
  | _, _ => none

/-- A request under a method is answered alike from every store without changing any, or it is
asked at the route and in the scope that it is addressed to. -/
theorem answer_cases (method : String) (request : Request) :
    (∃ response, ∀ settings now store,
        answer settings now store method request = (store, response)) ∨
      ∃ route scope, request.address? = some (route, scope) ∧ method = route.method ∧
        ∀ settings now store, answer settings now store method request =
          ask settings now store request route scope := by
  cases hfind : Route.find? (pathOf request.target) with
  | none => exact .inl ⟨_, fun _ _ _ => by rw [answer, hfind]⟩
  | some found =>
    obtain ⟨route, written⟩ := found
    by_cases hmethod : method = route.method
    · cases hscope : percentDecode? written with
      | none =>
        refine .inl ⟨.plain 400 ("Invalid URL: Invalid UTF-8 in `" ++ route.scopeName ++ "`"),
          fun _ _ _ => ?_⟩
        simp only [answer, hfind, hscope, hmethod, ne_eq, not_true_eq_false, if_false]
      | some scope =>
        refine .inr ⟨route, scope, ?_, hmethod, fun _ _ _ => ?_⟩
        · simp only [Request.address?, hfind, hscope, Option.bind_some, Option.map_some]
        · simp only [answer, hfind, hscope, hmethod, ne_eq, not_true_eq_false, if_false]
    · refine .inl ⟨.plain 405 "", fun _ _ _ => ?_⟩
      simp only [answer, hfind, ne_eq, hmethod, not_false_eq_true, if_true]

/-- A request is answered alike from every store without changing any, or it is asked at the
route and in the scope that it is addressed to. -/
theorem respond_cases (request : Request) :
    (∃ response, ∀ settings now store,
        respond settings now store request = (store, response)) ∨
      ∃ route scope, request.address? = some (route, scope) ∧ request.method = route.method ∧
        ∀ settings now store, respond settings now store request =
          ask settings now store request route scope := by
  by_cases hoptions : request.method = "OPTIONS"
  · exact .inl ⟨_, fun _ _ _ => by rw [respond, if_pos hoptions]⟩
  by_cases hhead : request.method = "HEAD"
  · left
    rcases answer_cases "GET" request with ⟨response, hsame⟩ | ⟨route, scope, -, hmethod, hask⟩
    · refine ⟨⟨response.status, .text ""⟩, fun settings now store => ?_⟩
      rw [respond, if_neg hoptions, if_pos hhead, hsame]
    · refine ⟨⟨200, .text ""⟩, fun settings now store => ?_⟩
      rw [respond, if_neg hoptions, if_pos hhead, hask]
      cases route with
      | tagNames => rfl
      | _ => exact absurd hmethod (by decide)
  · have hrespond (settings : Settings) (now : Timestamp) (store : Store) :
        respond settings now store request = answer settings now store request.method request := by
      rw [respond, if_neg hoptions, if_neg hhead]
    simp only [hrespond]
    exact answer_cases request.method request

/-- A request under the method of the route that it is addressed to is asked there. -/
theorem respond_of_address {settings : Settings} {now : Timestamp} {store : Store}
    {request : Request} {route : Route} {scope : String} (hmethod : request.method = route.method)
    (haddress : request.address? = some (route, scope)) :
    respond settings now store request = ask settings now store request route scope := by
  obtain ⟨⟨found, written⟩, hfind, hscope⟩ := Option.bind_eq_some_iff.mp haddress
  obtain ⟨decoded, hdecode, hsame⟩ := Option.map_eq_some_iff.mp hscope
  obtain ⟨rfl, rfl⟩ := Prod.mk.inj hsame
  have hoptions : request.method ≠ "OPTIONS" := by
    rw [hmethod]
    cases found <;> decide
  have hhead : request.method ≠ "HEAD" := by
    rw [hmethod]
    cases found <;> decide
  rw [respond, if_neg hoptions, if_neg hhead]
  simp only [answer, hfind, hdecode, hmethod, ne_eq, not_true_eq_false, if_false]

/-! ### What a request writes -/

/-- What asking a route in a scope can **write**: the ways in which the store can change. -/
inductive Writes (settings : Settings) (now : Timestamp) (store : Store) (request : Request)
    (scope : String) : Route → Store → Prop
  /-- Nothing. -/
  | nothing (route : Route) : Writes settings now store request scope route store
  /-- A bulk update of the calls that a compiled query selects. -/
  | update {query : Query} {filters : List Filter} {tags : NameMap (Option String)}
      {result : Store × Nat} :
      compileFor settings store .loggedCalls scope filters none = .ok query →
      store.updateTags (.select query .sqlite .ids) tags = .ok result →
      Writes settings now store request scope .updateTags result.1
  /-- A reported call. -/
  | report {body : ReportRequest} {next : Store} :
      readBody ReportRequest.decode request = .ok body →
      store.record scope (body.toCall now) = .ok next →
      Writes settings now store request scope .report next

/-- A handler that writes nothing leaves nothing written. -/
theorem handle_unchanged {α : Type} (store : Store) (decode : Json.Decoder α) (request : Request)
    (respondTo : α → Except Error Response) :
    (handle store decode request fun body =>
      (respondTo body).map fun response => (store, response)).1 = store := by
  unfold handle
  cases readBody decode request with
  | error response => rfl
  | ok body =>
    dsimp only
    cases respondTo body <;> rfl

/-- Asking a route writes nothing, or what the route is for. -/
theorem ask_writes (settings : Settings) (now : Timestamp) (store : Store) (request : Request)
    (route : Route) (scope : String) :
    Writes settings now store request scope route
      (ask settings now store request route scope).1 := by
  cases route with
  | queryLogs | countLogs | explainLogs | queryEntries =>
    rw [ask, handle_unchanged]
    exact .nothing _
  | tagNames => exact .nothing _
  | updateTags =>
    rw [ask, handle]
    cases readBody UpdateRequest.decode request with
    | error response => exact .nothing _
    | ok body =>
      dsimp only [updateLogTags, bind, Except.bind]
      cases hquery : compileFor settings store .loggedCalls scope body.filters none with
      | error e => exact .nothing _
      | ok query =>
        dsimp only
        cases hresult : store.updateTags (.select query .sqlite .ids) body.tags with
        | error e => exact .nothing _
        | ok result => exact .update hquery hresult
  | report =>
    rw [ask, handle]
    cases hbody : readBody ReportRequest.decode request with
    | error response => exact .nothing _
    | ok body =>
      dsimp only [report, bind, Except.bind]
      cases hrecord : store.record scope (body.toCall now) with
      | error e => exact .nothing _
      | ok next => exact .report hbody hrecord

namespace Writes

variable {settings : Settings} {now : Timestamp} {store next : Store} {request : Request}
  {scope project id : String} {route : Route}

/-- What a request writes keeps the invariant. -/
theorem wellFormed (hwrites : Writes settings now store request scope route next)
    (h : store.WellFormed) : next.WellFormed := by
  cases hwrites with
  | nothing => exact h
  | update _ hresult => exact h.updateTags hresult
  | report _ hrecord => exact h.record hrecord

/-- What a request writes for another project or at the route of datasets leaves the part of a
project as it is. -/
theorem ofProject_eq (hwrites : Writes settings now store request scope route next)
    (h : store.WellFormed) (hother : (route != .queryEntries && scope == project) = false) :
    next.ofProject project = store.ofProject project := by
  cases hwrites with
  | nothing => rfl
  | update hquery hresult => exact h.ofProject_updateTags_of_ne (by simpa using hother) hquery hresult
  | report _ hrecord => exact h.ofProject_record_of_ne (by simpa using hother) hrecord

/-- A project owns an id after a request only if it did before, or the request reports it. -/
theorem owns (hwrites : Writes settings now store request scope route next)
    (howns : next.owns project id = true) :
    store.owns project id = true ∨ (route = .report ∧ scope = project ∧
      ∃ body, readBody ReportRequest.decode request = .ok body ∧ body.id = id) := by
  cases hwrites with
  | nothing => exact .inl howns
  | update hquery hresult =>
    obtain ⟨ids, -, rfl⟩ := Store.updateTags_eq_ok_iff.mp hresult
    rw [Store.owns_congr (Store.calls_assignAll _ ids store)] at howns
    exact .inl howns
  | @report body _ hbody hrecord =>
    obtain ⟨-, rfl⟩ := Store.record_eq_ok_iff.mp hrecord
    rw [Store.owns_congr ((Store.LocalTo.setTags _ _).calls _), Store.owns_addCall,
      Bool.or_eq_true, Bool.and_eq_true, beq_iff_eq, beq_iff_eq] at howns
    refine howns.imp_right fun hnew => ⟨rfl, hnew.2, body, hbody, hnew.1⟩

end Writes

/-! ### What a project sees -/

/-- The **filters** that a request asks for, at the routes that take any. -/
def Request.filters (request : Request) : List Filter :=
  match request.address?.map Prod.fst with
  | some .queryLogs | some .countLogs | some .explainLogs | some .queryEntries =>
      ((readBody FilterRequest.decode request).toOption.map FilterRequest.filters).getD []
  | some .updateTags =>
      ((readBody UpdateRequest.decode request).toOption.map UpdateRequest.filters).getD []
  | some .report | some .tagNames | none => []

/-- Whether some filters **search for a pattern that is too long** under the settings. -/
def searchTooLong (settings : Settings) (filters : List Filter) : Bool :=
  filters.any (Filter.isTooLong (settings.compiler.options .empty).wildcards)

/-- Two responses to a request are **alike** if they are the same, or if the request searches
for a pattern that is too long and one of them is the failure that tells it. -/
def Alike (settings : Settings) (request : Request) (a b : Response) : Prop :=
  a = b ∨ searchTooLong settings request.filters = true ∧
    (a = .failure .patternTooLong ∨ b = .failure .patternTooLong)

/-- What a project **sees of a result**: its part of the store and the response. -/
def seenFrom (project : String) (result : Store × Response) : Store × Response :=
  (result.1.ofProject project, result.2)

/-- What a handler comes to: a failure leaves the store as it was. -/
def settle (store : Store) : Except Error (Store × Response) → Store × Response
  | .error e => (store, .failure e)
  | .ok result => result

section Project

variable {settings : Settings} {now : Timestamp} {store : Store} {request : Request}
  {project : String}

/-- A result on the part of a project is **seen alike** as one on the whole if it leaves the part
of what the other one leaves, with a response that is alike. -/
def SeenAlike (settings : Settings) (request : Request) (project : String)
    (part whole : Store × Response) : Prop :=
  part.1 = whole.1.ofProject project ∧ Alike settings request whole.2 part.2

/-- A handler of a body that can be read comes to what it makes of it. -/
theorem handle_of_read {α : Type} {decode : Json.Decoder α} {body : α}
    (hread : readBody decode request = .ok body)
    (handler : α → Except Error (Store × Response)) :
    handle store decode request handler = settle store (handler body) := by
  rw [handle, hread]
  cases hresult : handler body <;> simp only [hresult, settle]

/-- Handlers that agree on what the project sees are seen alike. Where one of them fails at a
pattern that is too long, the other one must not write. -/
theorem seenAlike_settle {long : Prop} {part whole : Except Error (Store × Response)}
    (hagree : AgreeUnless long part (whole.map (seenFrom project)))
    (hpart : long → ∀ result, part = .ok result → result.1 = store.ofProject project)
    (hwhole : long → ∀ result, whole = .ok result → result.1 = store)
    (hlong : long → searchTooLong settings request.filters = true) :
    SeenAlike settings request project (settle (store.ofProject project) part)
      (settle store whole) := by
  rcases hagree with rfl | ⟨hl, rfl | herror⟩
  · cases whole <;> exact ⟨rfl, .inl rfl⟩
  · refine ⟨?_, .inr ⟨hlong hl, .inr rfl⟩⟩
    cases whole with
    | error e => rfl
    | ok result => exact congrArg (Store.ofProject · project) (hwhole hl result rfl).symm
  · cases whole with
    | ok result => cases herror
    | error e =>
      obtain rfl := Except.error.inj herror
      refine ⟨?_, .inr ⟨hlong hl, .inl rfl⟩⟩
      cases part with
      | error e => rfl
      | ok result => exact hpart hl result rfl

/-- A handler that only responds is seen alike if its responses agree. -/
theorem seenAlike_settle_map {long : Prop} {part whole : Except Error Response}
    (hagree : AgreeUnless long part whole)
    (hlong : long → searchTooLong settings request.filters = true) :
    SeenAlike settings request project
      (settle (store.ofProject project) (part.map fun r => (store.ofProject project, r)))
      (settle store (whole.map fun r => (store, r))) := by
  refine seenAlike_settle (?_ : AgreeUnless long _ _) ?_ ?_ hlong
  · rcases hagree with rfl | ⟨hl, rfl | rfl⟩
    · cases part <;> exact .inl rfl
    · exact .inr ⟨hl, .inl rfl⟩
    · exact .inr ⟨hl, .inr rfl⟩
  · intro _ result hresult
    cases part <;> cases hresult
    rfl
  · intro _ result hresult
    cases whole <;> cases hresult
    rfl

/-- The query of a request is the same on the part of the project. -/
theorem compileFor_ofProject (settings : Settings) (store : Store) (project : String) :
    compileFor settings (store.ofProject project) .loggedCalls project =
      compileFor settings store .loggedCalls project := by
  funext filters selection
  rw [compileFor, compileFor, optionsFor, optionsFor, Store.tagNames_ofProject]

/-- The query of a request searches for a pattern that is too long only if its filters do. -/
theorem searchTooLong_of_compileFor {subject : Subject} {scope : String} {filters : List Filter}
    {selection : Option Selection} {query : Query}
    (hquery : compileFor settings store subject scope filters selection = .ok query)
    (hlong : query.SearchesTooLong) : searchTooLong settings filters = true := by
  have hany := Subject.any_isTooLong_of_compile hquery hlong
  exact hany

/-- A statement of the project selects the same ids on its part, up to patterns. -/
theorem queryIds_agree (h : store.WellFormed) (body : FilterRequest) :
    AgreeUnless (searchTooLong settings body.filters = true)
      (queryIds settings (store.ofProject project) .loggedCalls project body)
      (queryIds settings store .loggedCalls project body) := by
  rw [queryIds, queryIds, compileFor_ofProject]
  cases hquery : compileFor settings store .loggedCalls project body.filters body.selection with
  | error e => exact .inl rfl
  | ok query =>
    have hexecute := h.execute_agree hquery .sqlite (page settings body)
    exact ((hexecute.bind _).bind _).imp (searchTooLong_of_compileFor hquery)

/-- A statement of the project counts the same number on its part, up to patterns. -/
theorem countLogs_agree (h : store.WellFormed) (body : FilterRequest) :
    AgreeUnless (searchTooLong settings body.filters = true)
      (countLogs settings (store.ofProject project) project body)
      (countLogs settings store project body) := by
  rw [countLogs, countLogs, compileFor_ofProject]
  cases hquery : compileFor settings store .loggedCalls project body.filters body.selection with
  | error e => exact .inl rfl
  | ok query =>
    have hexecute := h.execute_agree hquery .sqlite .count
    exact ((hexecute.bind _).bind _).imp (searchTooLong_of_compileFor hquery)

/-- A statement of the project is explained in the same way on its part. -/
theorem explainLogs_ofProject (body : FilterRequest) :
    explainLogs settings (store.ofProject project) project body =
      explainLogs settings store project body := by
  rw [explainLogs, explainLogs, compileFor_ofProject]

/-- A bulk update of the project does to its part what it does to the whole, up to patterns. -/
theorem seenAlike_updateLogTags (h : store.WellFormed) {body : UpdateRequest}
    (hfilters : request.filters = body.filters) :
    SeenAlike settings request project
      (settle (store.ofProject project)
        (updateLogTags settings (store.ofProject project) project body))
      (settle store (updateLogTags settings store project body)) := by
  rw [updateLogTags, updateLogTags, compileFor_ofProject]
  cases hquery : compileFor settings store .loggedCalls project body.filters none with
  | error e => exact ⟨rfl, .inl rfl⟩
  | ok query =>
    refine seenAlike_settle (?_ : AgreeUnless query.SearchesTooLong _ _) ?_ ?_ ?_
    · have hupdate := (h.updateTags_agree hquery body.tags).bind
        fun result : Store × Nat =>
          .ok (result.1, Response.success [("matchedLogs", .integer result.2)])
      refine cast (congrArg (AgreeUnless _ _) ?_) hupdate
      dsimp only [bind, Except.bind]
      cases store.updateTags (.select query .sqlite .ids) body.tags <;> rfl
    · intro hlong result hresult
      dsimp only [bind, Except.bind] at hresult
      cases hupdate : (store.ofProject project).updateTags (.select query .sqlite .ids)
        body.tags with
      | error e => rw [hupdate] at hresult; cases hresult
      | ok updated =>
        rw [hupdate] at hresult
        cases hresult
        rw [← compileFor_ofProject] at hquery
        exact (h.ofProject project).updateTags_eq_self hquery hlong hupdate
    · intro hlong result hresult
      dsimp only [bind, Except.bind] at hresult
      cases hupdate : store.updateTags (.select query .sqlite .ids) body.tags with
      | error e => rw [hupdate] at hresult; cases hresult
      | ok updated =>
        rw [hupdate] at hresult
        cases hresult
        exact h.updateTags_eq_self hquery hlong hupdate
    · rw [hfilters]
      exact searchTooLong_of_compileFor hquery

/-- A report of the project does to its part what it does to the whole, unless the id is taken
by another project. -/
theorem report_ofProject (h : store.WellFormed) {body : ReportRequest}
    (hown : ∀ call ∈ store.calls, call.id = body.id → call.projectId = project) :
    report (store.ofProject project) now project body =
      (report store now project body).map (seenFrom project) := by
  have hrecord : (store.ofProject project).record project (body.toCall now) = _ :=
    h.ofProject_record hown
  rw [report, report, hrecord]
  cases store.record project (body.toCall now) <;> rfl

/-- Handlers that are seen alike make requests that are seen alike. -/
theorem seenAlike_handle {α : Type} {decode : Json.Decoder α}
    {handler part : α → Except Error (Store × Response)}
    (h : ∀ body, readBody decode request = .ok body →
      SeenAlike settings request project (settle (store.ofProject project) (part body))
        (settle store (handler body))) :
    SeenAlike settings request project (handle (store.ofProject project) decode request part)
      (handle store decode request handler) := by
  unfold handle
  cases hbody : readBody decode request with
  | error response => exact ⟨rfl, .inl rfl⟩
  | ok body => exact h body hbody

/-- **Asking a route for a project** from its part is seen like asking it from the whole. -/
theorem seenAlike_ask (h : store.WellFormed) {route : Route}
    (haddress : request.address? = some (route, project)) (hroute : route ≠ .queryEntries)
    (hown : route = .report → ∀ body, readBody ReportRequest.decode request = .ok body →
      ∀ call ∈ store.calls, call.id = body.id → call.projectId = project) :
    SeenAlike settings request project
      (ask settings now (store.ofProject project) request route project)
      (ask settings now store request route project) := by
  cases route with
  | queryLogs =>
    refine seenAlike_handle fun body hbody => ?_
    refine seenAlike_settle_map (queryIds_agree h body) fun hlong => ?_
    rw [Request.filters, haddress, hbody]
    exact hlong
  | countLogs =>
    refine seenAlike_handle fun body hbody => ?_
    refine seenAlike_settle_map (countLogs_agree h body) fun hlong => ?_
    rw [Request.filters, haddress, hbody]
    exact hlong
  | explainLogs =>
    refine seenAlike_handle fun body _ => ?_
    rw [explainLogs_ofProject]
    exact seenAlike_settle_map (.inl rfl) False.elim
  | updateTags =>
    refine seenAlike_handle fun body hbody => seenAlike_updateLogTags h ?_
    rw [Request.filters, haddress, hbody]
    rfl
  | report =>
    refine seenAlike_handle fun body hbody => ?_
    rw [report_ofProject h (hown rfl body hbody)]
    exact seenAlike_settle (.inl rfl) False.elim False.elim False.elim
  | tagNames =>
    rw [ask, ask, Store.tagNames_ofProject]
    exact ⟨rfl, .inl rfl⟩
  | queryEntries => exact absurd rfl hroute

end Project

end LogFilter.Http
