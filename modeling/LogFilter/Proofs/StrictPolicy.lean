import LogFilter.Proofs.FirstOffence
import LogFilter.Proofs.ProjectRequests

/-!
# The Strict Policy

A server that refuses unknown fields differs from one that takes them for tags in nothing but the
requests that it refuses. What it accepts besides the known fields is read from the tags that the
project has at that moment, through the copies of the project in the rows of the tags; in a
well-formed store these are the names that the calls of the project carry.

Whether a compilation succeeds is decided filter by filter. So two policies that agree on the
fields of all filters that have values compile to the same query, or fail at the same filter. A
single filter on which they do not agree is enough for the strict one to fail, at this filter or
at one before it, and whichever it is, the error lies in the filters of the caller.

## Main definitions

* `Store.UsesTag`: whether some call of a project carries a tag of a name.
* `Subject.Recognizes`: whether a name is a known field or a tag in use.

## Main results

* `Store.WellFormed.contains_tagNames_iff`: the tag names of a project are those in use.
* `Subject.compile_congr`: policies that agree on the filters compile alike.
* `Subject.compile_eq_error`: a field that is not accepted is refused as an error of the caller.
* `Http.respond_strict`: the strict policy is the permissive one, less what it refuses.
-/

namespace LogFilter

/-! ### Names in use -/

/-- The entries that count among sorted ones have every name. -/
theorem exists_mem_lastOfRuns {α : Type} {entry : String × α} {entries : List (String × α)}
    (h : entry ∈ entries) : ∃ last ∈ lastOfRuns entries, last.1 = entry.1 := by
  fun_induction lastOfRuns entries generalizing entry with
  | case1 => cases h
  | case2 only => exact ⟨only, List.mem_cons_self, by rw [List.mem_singleton.mp h]⟩
  | case3 first next rest same ih =>
    rcases List.mem_cons.mp h with rfl | hlater
    · obtain ⟨last, hlast, hname⟩ := ih List.mem_cons_self
      exact ⟨last, hlast, hname.trans same.symm⟩
    · exact ih hlater
  | case4 first next rest differ ih =>
    rcases List.mem_cons.mp h with rfl | hlater
    · exact ⟨entry, List.mem_cons_self, rfl⟩
    · obtain ⟨last, hlast, hname⟩ := ih hlater
      exact ⟨last, List.mem_cons_of_mem _ hlast, hname⟩

/-- A set that is made of a list has the members of the list. -/
theorem NameSet.contains_ofList_iff {names : List String} {name : String} :
    (NameSet.ofList names).contains name = true ↔ name ∈ names := by
  have hsorted (entry : String × Unit) :
      entry ∈ sortByName (names.map fun name => (name, ())) ↔ entry.1 ∈ names := by
    rw [sortByName, List.mem_mergeSort, List.mem_map]
    exact ⟨fun ⟨name, hname, heq⟩ => heq ▸ hname, fun hname => ⟨entry.1, hname, rfl⟩⟩
  rw [contains, List.contains_iff_mem, ofList]
  constructor
  · intro hmem
    obtain ⟨entry, hentry, rfl⟩ := List.mem_map.mp hmem
    exact (hsorted entry).mp (mem_of_mem_lastOfRuns hentry)
  · intro hmem
    obtain ⟨last, hlast, hname⟩ := exists_mem_lastOfRuns ((hsorted (name, ())).mpr hmem)
    exact List.mem_map.mpr ⟨last, hlast, hname⟩

namespace Store

/-- Whether a project **uses a tag name**: some call of the project carries a tag of this name,
with a value or without one. -/
def UsesTag (store : Store) (project name : String) : Prop :=
  ∃ call ∈ store.calls, call.projectId = project ∧
    ∃ tag ∈ store.tags, tag.callId = call.id ∧ tag.name = name

instance (store : Store) (project name : String) : Decidable (store.UsesTag project name) :=
  inferInstanceAs (Decidable (∃ call ∈ store.calls, _ ∧ ∃ tag ∈ store.tags, _))

/-- **The tag names of a project are those that its calls carry**: in a well-formed store the
project that a tag repeats is that of its call. -/
theorem WellFormed.contains_tagNames_iff {store : Store} (h : store.WellFormed)
    {project name : String} :
    (store.tagNames project).contains name = true ↔ store.UsesTag project name := by
  rw [tagNames, NameSet.contains_ofList_iff]
  constructor
  · intro hmem
    obtain ⟨tag, htag, rfl⟩ := List.mem_map.mp hmem
    obtain ⟨hstored, hproject⟩ := List.mem_filter.mp htag
    obtain ⟨call, hcall, hid, howner⟩ := h.tagCall tag hstored
    exact ⟨call, hcall, howner.trans (beq_iff_eq.mp hproject), tag, hstored, hid.symm, rfl⟩
  · rintro ⟨call, hcall, hproject, tag, htag, hid, rfl⟩
    have howns : store.owns project tag.callId = true :=
      owns_iff.mpr ⟨call, hcall, hid.symm, hproject⟩
    refine List.mem_map.mpr ⟨tag, List.mem_filter.mpr ⟨htag, ?_⟩, rfl⟩
    exact beq_iff_eq.mpr ((h.owns_tag_iff htag).mp howns)

end Store

namespace Subject

/-- Whether a subject **recognizes a name** in a scope: it is that of a known field or, where
there are tags, of one that is in use. -/
def Recognizes (subject : Subject) (store : Store) (scope name : String) : Prop :=
  (∃ field ∈ subject.fields, field.name = name) ∨
    subject = loggedCalls ∧ store.UsesTag scope name

instance (subject : Subject) (store : Store) (scope name : String) :
    Decidable (subject.Recognizes store scope name) :=
  inferInstanceAs (Decidable ((∃ field ∈ subject.fields, _) ∨ _ ∧ _))

/-! ### Compiling under two policies -/

variable {subject : Subject} {o o' : Options}

/-- Whether two policies **agree on a filter**: if it has a value and names no known field, then
both accept the name or neither does. -/
def AgreeOn (subject : Subject) (o o' : Options) (filter : Filter) : Prop :=
  filter.specified? ≠ none → subject.field? filter.field = none →
    subject.accepts o filter.field = subject.accepts o' filter.field

/-- A filter adds the same under policies that agree on it. -/
theorem clause?_congr (hwildcards : o.wildcards = o'.wildcards) {filter : Filter}
    (hagree : subject.AgreeOn o o' filter) (position : Nat) :
    subject.clause? o position filter = subject.clause? o' position filter := by
  unfold clause?
  cases hvalue : filter.specified? with
  | none => rfl
  | some value =>
    cases hfield : subject.field? filter.field with
    | some field => simp only [hwildcards]
    | none =>
      have haccepts := hagree (by rw [hvalue]; exact Option.some_ne_none value) hfield
      simp only [hwildcards, haccepts]

/-- Filters add the same under policies that agree on all of them. -/
theorem clausesFrom_congr (hwildcards : o.wildcards = o'.wildcards) {filters : List Filter}
    (hagree : ∀ filter ∈ filters, subject.AgreeOn o o' filter) (position : Nat) :
    subject.clausesFrom o position filters = subject.clausesFrom o' position filters := by
  induction filters generalizing position with
  | nil => rfl
  | cons filter rest ih =>
    have hfirst := clause?_congr hwildcards (hagree filter List.mem_cons_self) position
    have hrest := ih (fun later hmem => hagree later (List.mem_cons_of_mem _ hmem)) (position + 1)
    rw [clausesFrom, clausesFrom, hfirst, hrest]

/-- **Policies that agree on all filters compile alike**, errors included. -/
theorem compile_congr {filters : List Filter}
    (hagree : ∀ filter ∈ filters, subject.AgreeOn o o' filter)
    (hwildcards : o.wildcards = o'.wildcards) (hstatus : o.successStatus = o'.successStatus)
    (scope : String) (selection : Option Selection) :
    subject.compile o scope filters selection = subject.compile o' scope filters selection := by
  rw [compile, compile, clausesFrom_congr hwildcards hagree]
  simp only [assemble, hstatus]

/-- **A field that is neither known nor accepted is refused**, as an error of the caller. -/
theorem compile_eq_error {filters : List Filter} {filter : Filter} (hmem : filter ∈ filters)
    (hvalue : filter.specified? ≠ none) (hfield : subject.field? filter.field = none)
    (haccepts : subject.accepts o filter.field = false) (scope : String)
    (selection : Option Selection) :
    ∃ e, e.isValidation = true ∧ subject.compile o scope filters selection = .error e := by
  have hoffends : ∃ e, subject.Offends o filter e := by
    by_contra hnone
    obtain ⟨clause, hok⟩ := (exists_clause?_eq_ok_iff 0).mpr (not_exists.mp hnone)
    obtain ⟨value, hspecified⟩ := Option.ne_none_iff_exists'.mp hvalue
    have haccepted := (exists_adds_iff.mp ⟨clause, clause?_eq_ok_iff.mp hok⟩ value hspecified).2
    rw [haccepted hfield] at haccepts
    cases haccepts
  obtain ⟨e, hfirst⟩ := exists_firstOffence_iff.mpr ⟨filter, hmem, hoffends⟩
  exact ⟨e, hfirst.isValidation, compile_eq_error_iff.mpr hfirst⟩

end Subject

/-- The settings with **another policy** for unknown fields. -/
def Settings.withUnknownFields (settings : Settings) (policy : UnknownFields) : Settings :=
  { settings with compiler := { settings.compiler with unknownFields := policy } }

namespace Http

variable {settings : Settings} {store : Store} {subject : Subject} {scope : String}
  {filters : List Filter}

/-! ### Requests under two policies -/

/-- The strict policy accepts the names that the subject recognizes. -/
theorem accepts_strict_iff (h : store.WellFormed) {name : String}
    (hfield : subject.field? name = none) :
    subject.accepts (optionsFor (settings.withUnknownFields .reject) store subject scope) name =
      true ↔ subject.Recognizes store scope name := by
  have hunknown : ¬∃ field ∈ subject.fields, field.name = name := fun ⟨field, hmem, hname⟩ =>
    Subject.field?_eq_none_iff.mp hfield field hmem hname
  rw [Subject.Recognizes, or_iff_right hunknown]
  cases subject with
  | datasetEntries => exact ⟨nofun, fun hlogs => nomatch hlogs.1⟩
  | loggedCalls =>
    rw [← h.contains_tagNames_iff]
    exact ⟨fun haccepts => ⟨rfl, haccepts⟩, And.right⟩

/-- Filters whose fields are recognized compile alike under both policies. -/
theorem compileFor_strict_eq (h : store.WellFormed)
    (hall : ∀ filter ∈ filters, filter.specified? ≠ none →
      subject.Recognizes store scope filter.field) (selection : Option Selection) :
    compileFor (settings.withUnknownFields .reject) store subject scope filters selection =
      compileFor (settings.withUnknownFields .tag) store subject scope filters selection := by
  have hagree : ∀ filter ∈ filters, subject.AgreeOn
      (optionsFor (settings.withUnknownFields .reject) store subject scope)
      (optionsFor (settings.withUnknownFields .tag) store subject scope) filter :=
    fun filter hmem hvalue hfield =>
      (accepts_strict_iff h hfield).mpr (hall filter hmem hvalue)
  exact Subject.compile_congr hagree rfl rfl scope selection

/-- Filters of which one has a field that is not recognized are refused under the strict one. -/
theorem compileFor_strict_eq_error (h : store.WellFormed)
    (hsome : ¬∀ filter ∈ filters, filter.specified? ≠ none →
      subject.Recognizes store scope filter.field) (selection : Option Selection) :
    ∃ e, e.isValidation = true ∧
      compileFor (settings.withUnknownFields .reject) store subject scope filters selection =
        .error e := by
  simp only [not_forall] at hsome
  obtain ⟨filter, hmem, hvalue, hrefused⟩ := hsome
  have hfield : subject.field? filter.field = none := by
    cases hfound : subject.field? filter.field with
    | none => rfl
    | some field => exact absurd (.inl ⟨field, Subject.field?_eq_some hfound⟩) hrefused
  refine Subject.compile_eq_error hmem hvalue hfield (Bool.eq_false_iff.mpr fun haccepts => ?_)
    scope selection
  exact hrefused ((accepts_strict_iff h hfield).mp haccepts)

/-- The subject that a route filters. -/
def Route.filtered : Route → Subject
  | queryEntries => .datasetEntries
  | _ => .loggedCalls

/-- Whether a result under the strict policy is the one under the permissive policy **less what is
not recognized**: it is the same, or the request is refused and changes nothing. -/
def Restricts (store : Store) (recognized : Prop) (strict permissive : Store × Response) : Prop :=
  (recognized → strict = permissive) ∧
    (¬recognized → ∃ response : Response, response.status = 400 ∧ strict = (store, response))

/-- The status of an error of the caller. -/
theorem status_failure {e : Error} (h : e.isValidation = true) :
    (Response.failure e).status = 400 :=
  if_pos h

section Request

variable {request : Request} {now : Timestamp} {route : Route}

/-- Whether a request **names recognized fields** only, in its filters that have values. -/
def Request.Recognized (request : Request) (store : Store) (subject : Subject) (scope : String) :
    Prop :=
  ∀ filter ∈ request.filters, filter.specified? ≠ none →
    subject.Recognizes store scope filter.field

/-- Handlers that begin with a compilation and go on alike make routes that do. -/
theorem restricts_handle (settings : Settings) (h : store.WellFormed) {α : Type}
    {decode : Json.Decoder α} (filtersOf : α → List Filter)
    (selectionOf : α → Option Selection)
    {strict permissive : α → Except Error (Store × Response)}
    (hfilters : request.filters = ((readBody decode request).toOption.map filtersOf).getD [])
    (hsame : ∀ body,
      compileFor (settings.withUnknownFields .reject) store subject scope (filtersOf body)
          (selectionOf body) =
        compileFor (settings.withUnknownFields .tag) store subject scope (filtersOf body)
          (selectionOf body) →
      strict body = permissive body)
    (herror : ∀ body e,
      compileFor (settings.withUnknownFields .reject) store subject scope (filtersOf body)
          (selectionOf body) = .error e →
      strict body = .error e) :
    Restricts store (request.Recognized store subject scope)
      (handle store decode request strict) (handle store decode request permissive) := by
  rw [Request.Recognized, hfilters]
  cases hread : readBody decode request with
  | error response =>
    refine ⟨fun _ => ?_, fun hnot => absurd (fun filter hmem => nomatch hmem) hnot⟩
    rw [handle, handle, hread]
  | ok body =>
    rw [handle_of_read hread, handle_of_read hread]
    constructor
    · intro hall
      rw [hsame body (compileFor_strict_eq h hall (selectionOf body))]
    · intro hsome
      obtain ⟨e, hvalid, hrefused⟩ := compileFor_strict_eq_error h hsome (selectionOf body)
      rw [herror body e hrefused]
      exact ⟨.failure e, status_failure hvalid, rfl⟩

/-- A route under the strict policy is the one under the permissive policy, less what is not
recognized. -/
theorem restricts_ask (h : store.WellFormed) (haddress : request.address? = some (route, scope)) :
    Restricts store (request.Recognized store route.filtered scope)
      (ask (settings.withUnknownFields .reject) now store request route scope)
      (ask (settings.withUnknownFields .tag) now store request route scope) := by
  have hroute : request.address?.map Prod.fst = some route := by rw [haddress]; rfl
  cases route with
  | queryLogs | queryEntries =>
    dsimp only [Route.filtered]
    refine restricts_handle settings h FilterRequest.filters FilterRequest.selection
      (by rw [Request.filters, hroute]) (fun body hsame => ?_) fun body e herror => ?_
    · rw [queryIds, queryIds, hsame]
      rfl
    · rw [queryIds, herror]
      rfl
  | countLogs =>
    dsimp only [Route.filtered]
    refine restricts_handle settings h FilterRequest.filters FilterRequest.selection
      (by rw [Request.filters, hroute]) (fun body hsame => ?_) fun body e herror => ?_
    · rw [countLogs, countLogs, hsame]
    · rw [countLogs, herror]
      rfl
  | explainLogs =>
    dsimp only [Route.filtered]
    refine restricts_handle settings h FilterRequest.filters FilterRequest.selection
      (by rw [Request.filters, hroute]) (fun body hsame => ?_) fun body e herror => ?_
    · rw [explainLogs, explainLogs, hsame]
      rfl
    · rw [explainLogs, herror]
      rfl
  | updateTags =>
    dsimp only [Route.filtered]
    refine restricts_handle settings h UpdateRequest.filters (fun _ => none)
      (by rw [Request.filters, hroute]) (fun body hsame => ?_) fun body e herror => ?_
    · rw [updateLogTags, updateLogTags, hsame]
    · rw [updateLogTags, herror]
      rfl
  | report | tagNames =>
    have hnone : request.filters = [] := by rw [Request.filters, hroute]
    refine ⟨fun _ => rfl, fun hnot => absurd (fun filter hmem => ?_) hnot⟩
    rw [hnone] at hmem
    cases hmem

/-- **The strict policy is the permissive one, less the requests that name unused tags.** A
request at its route is answered alike under both policies, and leaves the same store, if every
filter that has a value names a known field or a tag that some call of the project carries. If one
does not, then the strict policy refuses the request and changes nothing. -/
theorem respond_strict (hstore : store.Reachable) (settings : Settings) (now : Timestamp)
    (haddress : request.address? = some (route, scope)) (hmethod : request.method = route.method) :
    (request.Recognized store route.filtered scope →
      respond (settings.withUnknownFields .reject) now store request =
        respond (settings.withUnknownFields .tag) now store request) ∧
    (¬request.Recognized store route.filtered scope → ∃ response : Response,
      response.status = 400 ∧
        respond (settings.withUnknownFields .reject) now store request = (store, response)) := by
  rw [respond_of_address hmethod haddress, respond_of_address hmethod haddress]
  exact restricts_ask hstore.wellFormed haddress

end Request

/-- A request of a project that counts the calls with a value of a tag. -/
def tagCount (name : String) : Request :=
  ⟨"POST", "/v1/projects/p/logs/count", some "application/json",
    "[[[\"" ++ name ++ "\",\"=\",\"prod\"]]]"⟩

/-- The tag that one of two calls carries is accepted by the strict policy, and a tag that neither
carries is refused. -/
theorem respond_strict_twoCalls :
    respond (Settings.withUnknownFields {} .reject) Subject.newYear Subject.twoCalls
        (tagCount "env") =
      respond (Settings.withUnknownFields {} .tag) Subject.newYear Subject.twoCalls
        (tagCount "env") ∧
    ∃ response : Response, response.status = 400 ∧
      respond (Settings.withUnknownFields {} .reject) Subject.newYear Subject.twoCalls
        (tagCount "color") = (Subject.twoCalls, response) := by
  have hstrict (name : String) (haddress : (tagCount name).address? = some (.countLogs, "p")) :=
    respond_strict Subject.reachable_twoCalls {} Subject.newYear haddress rfl
  constructor
  · refine (hstrict "env" (by decide +kernel)).1 ?_
    have hfilters : (tagCount "env").filters = [⟨"env", "=", some "prod"⟩] := by decide +kernel
    rw [Request.Recognized, hfilters]
    decide
  · refine (hstrict "color" (by decide +kernel)).2 ?_
    have hfilters : (tagCount "color").filters = [⟨"color", "=", some "prod"⟩] := by
      decide +kernel
    rw [Request.Recognized, hfilters]
    decide

end Http

end LogFilter
