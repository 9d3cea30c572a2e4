import LogFilter.Proofs.ProjectRequests

/-!
# Pages and Counts

A page of a query is cut out of the ids that the query selects, its count is how many there are,
and pages of one size tile them. The size and the offset of a page are bound to placeholders,
where the greatest number that can be bound stands for all beyond; no table is as long as that,
so this makes no difference.

That there are two placeholders more does make one. A query whose own placeholders are as many
as it may have can be run for its ids and for its count, and not for a page. And each of these is
planned by itself: where a pattern is too long, one of them may meet it and another one not. Then
there are no ids, so it cannot be seen in what is not an error.

## Main definitions

* `Sql.Query.HasRoom`: whether a query has room for the placeholders of a page.
* `Store.TiledBy`: whether the pages and the count of a query are those of a list of ids.
* `Http.Request.AsksFor`: whether a request asks a route for the records of a query.
* `Http.AnsweredFrom`: what a request for records is answered with.

## Main results

* `flatMap_pages`: pages of one size tile a list.
* `Subject.tiledBy_of_fetchIds`: the pages and the count of a query are those of its ids.
* `Http.answeredFrom_of_tiledBy`: requests for records are answered from these.
* `Http.pages_tile_ids`: both together, for every compiled query and every request.
* `Subject.refuses_pages`: a query that has ids and no pages.
-/

namespace LogFilter

open Sql

/-! ### Cutting pages -/

/-- **Pages of one size tile a list**: the first of them, one after the other, are the start of
the list. -/
theorem flatMap_pages {α : Type} (items : List α) (size count : Nat) :
    ((List.range count).flatMap fun page => (items.drop (size * page)).take size) =
      items.take (size * count) := by
  induction count with
  | zero => rfl
  | succ count ih =>
    rw [List.range_succ, List.flatMap_append, ih, Nat.mul_succ, List.take_add]
    simp

/-- A bound that is not below the length of a list makes no difference to its pages. -/
theorem page_min_eq {α : Type} {items : List α} {bound : Nat} (h : items.length ≤ bound)
    (limit offset : Nat) :
    (items.drop (min offset bound)).take (min limit bound) = (items.drop offset).take limit := by
  have hdrop : items.drop (min offset bound) = items.drop offset := by
    rcases Nat.le_total offset bound with hle | hle
    · rw [Nat.min_eq_left hle]
    · rw [Nat.min_eq_right hle, List.drop_eq_nil_of_le h, List.drop_eq_nil_of_le (h.trans hle)]
  rw [hdrop]
  rcases Nat.le_total limit bound with hle | hle
  · rw [Nat.min_eq_left hle]
  · have hlength : (items.drop offset).length ≤ bound := by
      rw [List.length_drop]
      omega
    rw [Nat.min_eq_right hle, List.take_of_length_le hlength,
      List.take_of_length_le (hlength.trans hle)]

/-- Results that can all be had up to patterns can be had one after the other. -/
theorem mapM_agree {α β : Type} {long : Prop} {run : α → Except Error β} {results : α → β}
    (h : ∀ item, AgreeUnless long (run item) (.ok (results item))) (items : List α) :
    AgreeUnless long (items.mapM run) (.ok (items.map results)) := by
  induction items with
  | nil => exact .inl rfl
  | cons item rest ih =>
    rw [List.mapM_cons]
    rcases (h item).eq_ok_or with hitem | ⟨hlong, hitem⟩
    · rcases ih.eq_ok_or with hrest | ⟨hlong, hrest⟩
      · exact .inl (by rw [hitem, hrest]; rfl)
      · exact .inr ⟨hlong, .inl (by rw [hitem, hrest]; rfl)⟩
    · exact .inr ⟨hlong, .inl (by rw [hitem]; rfl)⟩

/-- Whether a query **has room for pages**: whether the size and the offset of a page are not
placeholders too many. -/
def Sql.Query.HasRoom (query : Query) : Prop :=
  (query.pieces .ids).params.length + 2 ≤ maxParams

instance (query : Query) : Decidable query.HasRoom :=
  inferInstanceAs (Decidable (_ ≤ _))

/-- Whether the pages of a query and its count are **those of a list of ids**, as far as it has
room for pages. Only with a pattern that is too long some of them can fail. -/
structure Store.TiledBy (store : Store) (query : Query) (ids : List String) : Prop where
  whole : store.fetchIds (.select query .sqlite .ids) = .ok ids
  /-- With a pattern that is too long there are no ids. -/
  nothing : query.SearchesTooLong → ids = []
  count : AgreeUnless query.SearchesTooLong (store.count (.select query .sqlite .count))
    (.ok ids.length)
  /-- A page is cut out of the ids, whatever its size and its offset. -/
  page : query.HasRoom → ∀ limit offset, AgreeUnless query.SearchesTooLong
    (store.fetchIds (.select query .sqlite (.page limit offset)))
    (.ok ((ids.drop offset).take limit))
  /-- Pages of one size, one after the other, are the ids once there are enough of them. -/
  tile : query.HasRoom → ∀ size count, ids.length ≤ size * count →
    AgreeUnless query.SearchesTooLong
      (((List.range count).mapM fun page =>
        store.fetchIds (.select query .sqlite (.page size (size * page)))).map List.flatten)
      (.ok ids)
  /-- Without room for pages every page is refused. -/
  refused : ¬query.HasRoom → ∀ limit offset, ∃ error, query.Exceeds (.page limit offset) error ∧
    store.fetchIds (.select query .sqlite (.page limit offset)) = .error error

namespace Subject

variable {subject : Subject} {options : Options} {scopeId : String} {filters : List Filter}
  {selection : Option Selection} {store : Store} {query : Query} {ids : List String}

/-- With room for it a page is cut out of the ids that a compiled query selects, up to patterns. -/
theorem fetchIds_page_of_hasRoom (hstore : store.WellFormed)
    (hsmall : (store.records subject).length ≤ maxBound)
    (hquery : subject.compile options scopeId filters selection = .ok query)
    (hids : store.fetchIds (.select query .sqlite .ids) = .ok ids) (hroom : query.HasRoom)
    (limit offset : Nat) :
    AgreeUnless query.SearchesTooLong
      (store.fetchIds (.select query .sqlite (.page limit offset)))
      (.ok ((ids.drop offset).take limit)) := by
  obtain ⟨hcheck, -, rfl⟩ := (fetchIds_compile_eq_ok_iff hstore hquery).mp hids
  have hpage : query.check (.page limit offset) = .ok () := by
    rw [Query.check_eq_ok_iff, Query.params_pieces_page, List.length_append]
    exact ⟨hroom, (Query.check_eq_ok_iff.mp hcheck).2⟩
  have hlength : ((store.asked subject options scopeId filters selection).map
      Record.id).length ≤ maxBound := by
    have hkept := List.length_filter_le (store.meets options scopeId filters selection)
      (store.records subject)
    rw [List.length_map, Store.asked, List.length_mergeSort]
    exact Nat.le_trans hkept hsmall
  rw [fetchIds_page_compile_eq hstore hquery, hpage, page_min_eq hlength]
  exact scan_agree_ok hquery store.engine store.tables (.page limit offset) _

/-- Without room for it a page of a compiled query is refused. -/
theorem fetchIds_page_of_not_hasRoom (hroom : ¬query.HasRoom) (limit offset : Nat) :
    ∃ error, query.Exceeds (.page limit offset) error ∧
      store.fetchIds (.select query .sqlite (.page limit offset)) = .error error := by
  rcases query.check_cases (.page limit offset) with hcheck | ⟨error, hexceeds, hcheck⟩
  · have hparams := (Query.check_eq_ok_iff.mp hcheck).1
    rw [Query.params_pieces_page, List.length_append] at hparams
    exact absurd hparams hroom
  · refine ⟨error, hexceeds, ?_⟩
    rw [Store.fetchIds, Statement.execute, Query.execute, hcheck]
    rfl

/-- **The pages and the count of a compiled query are those of its ids.** -/
theorem tiledBy_of_fetchIds (hstore : store.WellFormed)
    (hsmall : (store.records subject).length ≤ maxBound)
    (hquery : subject.compile options scopeId filters selection = .ok query)
    (hids : store.fetchIds (.select query .sqlite .ids) = .ok ids) : store.TiledBy query ids where
  whole := hids
  nothing := fun hlong => eq_nil_of_searchesTooLong hstore hquery hlong hids
  count := count_of_fetchIds hstore hquery hids
  page := fetchIds_page_of_hasRoom hstore hsmall hquery hids
  tile := by
    intro hroom size count hlength
    have hpage (page : Nat) := fetchIds_page_of_hasRoom hstore hsmall hquery hids hroom size
      (size * page)
    have hflatten : ((List.range count).map fun page =>
        (ids.drop (size * page)).take size).flatten = ids := by
      rw [← List.flatMap_def, flatMap_pages, List.take_of_length_le hlength]
    rw [← hflatten]
    exact (mapM_agree hpage (List.range count)).map List.flatten
  refused := fetchIds_page_of_not_hasRoom

/-- A selection of some ids is not nested deeply, however many they are. -/
theorem depth_selectedIds_le {ids : NameSet} (hids : ids.isEmpty = false) :
    (loggedCalls.assemble {} "p" (some ⟨false, ids, .empty⟩) []).depth ≤ maxDepth := by
  have hjoins : (loggedCalls.assemble {} "p" (some ⟨false, ids, .empty⟩) []).joins =
      [responseJoin] := rfl
  rw [Query.depth, hjoins, predicates_selectedIds hids]
  cases Selection.boundIds ids with
  | nil => exact Nat.le_of_ble_eq_true rfl
  | cons id rest => exact Nat.le_of_ble_eq_true rfl

/-- **There are queries that have ids and no pages**: with a selection of so many ids that their
placeholders are all that a query may have, the ids can be had and no page of them can. -/
theorem refuses_pages : ∃ query ids, twoCalls.Reachable ∧
    loggedCalls.compile {} "p" [] (some ⟨false, letterIds 32764, .empty⟩) = .ok query ∧
    twoCalls.fetchIds (.select query .sqlite .ids) = .ok ids ∧
    ∀ limit offset, twoCalls.fetchIds (.select query .sqlite (.page limit offset)) ≠
      .ok ((ids.drop offset).take limit) := by
  have hnonempty : (letterIds 32764).isEmpty = false :=
    isEmpty_of_contains (contains_letterIds (by decide))
  have hparams : ((loggedCalls.assemble {} "p" (some ⟨false, letterIds 32764, .empty⟩)
      []).pieces .ids).params.length = 32766 := by
    rw [length_params_selectedIds hnonempty, length_letterIds]
  have hquery : loggedCalls.compile {} "p" [] (some ⟨false, letterIds 32764, .empty⟩) =
      .ok (loggedCalls.assemble {} "p" (some ⟨false, letterIds 32764, .empty⟩) []) := rfl
  have hcheck := Query.check_eq_ok_iff.mpr
    ⟨Nat.le_of_eq hparams, depth_selectedIds_le hnonempty, (by decide : 1 + 1 ≤ maxTables)⟩
  have hids := fetchIds_compile_of_check reachable_twoCalls.wellFormed hquery hcheck fun hlong =>
    Bool.false_ne_true (any_isTooLong_of_compile hquery hlong)
  refine ⟨_, _, reachable_twoCalls, hquery, hids, fun limit offset hpage => ?_⟩
  have hroom : ¬(loggedCalls.assemble {} "p" (some ⟨false, letterIds 32764, .empty⟩)
      []).HasRoom := by
    rw [Query.HasRoom, hparams]
    decide
  obtain ⟨error, -, herror⟩ := fetchIds_page_of_not_hasRoom hroom limit offset
  rw [herror] at hpage
  cases hpage

end Subject

/-! ### Requests for records -/

namespace Http

/-- The subject whose records a route tells or counts. -/
def Route.subject? : Route → Option Subject
  | queryLogs | countLogs => some .loggedCalls
  | queryEntries => some .datasetEntries
  | explainLogs | updateTags | report | tagNames => none

/-- Whether a request **asks a route for the records of a query**: its body can be read, and its
filters and its selection compile to the query. -/
structure Request.AsksFor (settings : Settings) (store : Store) (request : Request)
    (route : Route) (body : FilterRequest) (query : Query) : Prop where
  method : request.method = "POST"
  read : readBody FilterRequest.decode request = .ok body
  compiles : ∃ subject scope, request.address? = some (route, scope) ∧
    route.subject? = some subject ∧
    compileFor settings store subject scope body.filters body.selection = .ok query

variable {settings : Settings} {now : Timestamp} {store : Store} {request : Request}
  {route : Route} {scope : String} {body : FilterRequest} {query : Query} {ids : List String}

/-- A request for a page is answered with the ids that its query selects on the page. -/
theorem respond_query (hasks : request.AsksFor settings store route body query)
    (hroute : route = .queryLogs ∨ route = .queryEntries) :
    respond settings now store request =
      match store.fetchIds (.select query .sqlite (page settings body)) with
      | .ok ids => (store, .success [("ids", textArray ids)])
      | .error e => (store, .failure e) := by
  obtain ⟨subject, scope, haddress, hsubject, hquery⟩ := hasks.compiles
  have hanswer : settle store ((queryIds settings store subject scope body).map fun r =>
      (store, r)) = match store.fetchIds (.select query .sqlite (page settings body)) with
      | .ok ids => (store, .success [("ids", textArray ids)])
      | .error e => (store, .failure e) := by
    rw [queryIds, hquery]
    dsimp only [bind, Except.bind]
    cases store.fetchIds (.select query .sqlite (page settings body)) <;> rfl
  rw [← hanswer]
  rcases hroute with rfl | rfl <;> obtain rfl := Option.some.inj hsubject <;>
    rw [respond_of_address hasks.method haddress, ask, handle_of_read hasks.read]

/-- Whether what comes of a request for records **is answered from some ids**: from the page that
it asks for, which is never larger than the settings allow, or from how many there are. Only with a
pattern that is too long the answer can be its failure instead. -/
structure AnsweredFrom (settings : Settings) (store : Store) (route : Route)
    (body : FilterRequest) (query : Query) (ids : List String) (result : Store × Response) :
    Prop where
  /-- With a pattern that is too long there are no ids. -/
  nothing : query.SearchesTooLong → ids = []
  selects : route = .queryLogs ∨ route = .queryEntries → query.HasRoom →
    result = (store, .success [("ids", textArray ((ids.drop (body.offset.getD 0)).take
        (min (body.limit.getD settings.server.maxPageSize) settings.server.maxPageSize)))]) ∨
      query.SearchesTooLong ∧ result = (store, .failure .patternTooLong)
  /-- A query without room for pages is answered with its failure. -/
  refuses : route = .queryLogs ∨ route = .queryEntries → ¬query.HasRoom →
    ∃ error, query.Exceeds (page settings body) error ∧ result = (store, .failure error)
  counts : route = .countLogs → result = (store, .success [("count", .integer ids.length)]) ∨
    query.SearchesTooLong ∧ result = (store, .failure .patternTooLong)

/-- **Requests for records are answered from the ids of their query.** -/
theorem answeredFrom_of_tiledBy (htiled : store.TiledBy query ids)
    (hasks : request.AsksFor settings store route body query) :
    AnsweredFrom settings store route body query ids (respond settings now store request) where
  nothing := htiled.nothing
  selects := by
    intro hroute hroom
    rw [respond_query hasks hroute, page]
    rcases (htiled.page hroom _ _).eq_ok_or with hok | ⟨hlong, herror⟩
    · exact .inl (by rw [hok])
    · exact .inr ⟨hlong, by rw [herror]⟩
  refuses := by
    intro hroute hroom
    obtain ⟨error, hexceeds, herror⟩ := htiled.refused hroom _ _
    refine ⟨error, hexceeds, ?_⟩
    rw [respond_query hasks hroute, page, herror]
  counts := by
    rintro rfl
    obtain ⟨subject, scope, haddress, hsubject, hquery⟩ := hasks.compiles
    obtain rfl := Option.some.inj hsubject
    rw [respond_of_address hasks.method haddress, ask, handle_of_read hasks.read, countLogs,
      hquery]
    rcases htiled.count.eq_ok_or with hok | ⟨hlong, herror⟩
    · exact .inl (by simp only [bind, Except.bind, hok]; rfl)
    · exact .inr ⟨hlong, by simp only [bind, Except.bind, herror]; rfl⟩

/-- **Pages tile the ids of a query, and counts agree with them**, in every reachable store whose
tables are no longer than the greatest number that can be bound. A compiled query gives ids, of
which its pages and its count are those, or it fails and exceeds a limit, which the error tells.
A request for a page or for a count is answered from the same ids. Only with a pattern that is too
long a page or a count can fail where the ids are had, and then there are none. -/
theorem pages_tile_ids (hstore : store.Reachable)
    (hsmall : ∀ subject, (store.records subject).length ≤ maxBound) :
    (∀ subject options scopeId filters selection query,
      Subject.compile subject options scopeId filters selection = .ok query →
      (∃ ids, store.TiledBy query ids) ∨ ∃ error, query.Exceeds .ids error ∧
        store.fetchIds (.select query .sqlite .ids) = .error error) ∧
    ∀ settings now request route body query ids,
      Request.AsksFor settings store request route body query →
      store.fetchIds (.select query .sqlite .ids) = .ok ids →
      AnsweredFrom settings store route body query ids (respond settings now store request) := by
  constructor
  · intro subject options scopeId filters selection query hquery
    rcases Subject.fetchIds_compile_cases hstore.wellFormed hquery with ⟨ids, hids, -⟩ | hfails
    · exact .inl ⟨ids, Subject.tiledBy_of_fetchIds hstore.wellFormed (hsmall subject) hquery hids⟩
    · exact .inr hfails
  · intro settings now request route body query ids hasks hids
    obtain ⟨subject, scope, -, -, hquery⟩ := hasks.compiles
    exact answeredFrom_of_tiledBy
      (Subject.tiledBy_of_fetchIds hstore.wellFormed (hsmall subject) hquery hids) hasks

/-- A request of a project for records, with a list of filters, a selection and a page. -/
def secondPage (route : String) : Request :=
  ⟨"POST", "/v1/projects/p/logs/" ++ route, some "application/json", "[[],null,5,1]"⟩

/-- What it asks for. -/
def secondBody : FilterRequest := ⟨[], none, some 5, some 1⟩

/-- Of two calls the second one is on the page after the first one, and both are counted. -/
theorem respond_secondPage :
    respond {} Subject.newYear Subject.twoCalls (secondPage "query") =
        (Subject.twoCalls, .success [("ids", textArray ["b"])]) ∧
      respond {} Subject.newYear Subject.twoCalls (secondPage "count") =
        (Subject.twoCalls, .success [("count", .integer 2)]) := by
  have hsmall (subject : Subject) : (Subject.twoCalls.records subject).length ≤ maxBound := by
    cases subject <;> decide
  have hread (route : String) :
      readBody FilterRequest.decode (secondPage route) = .ok secondBody := by
    have hjson : ((secondPage route).contentType.bind MediaType.read?).any MediaType.isJson =
        true := by
      change ((some "application/json" : Option String).bind MediaType.read?).any _ = _
      decide +kernel
    have hstart : Json.readStart FilterRequest.decode (secondPage route).body =
        .ok secondBody := by
      change Json.readStart FilterRequest.decode "[[],null,5,1]" = .ok ⟨[], none, some 5, some 1⟩
      rfl
    have hsize : ¬maxBodySize < (secondPage route).body.utf8ByteSize := by
      change ¬maxBodySize < "[[],null,5,1]".utf8ByteSize
      decide
    rw [readBody, hjson, hstart, if_neg (by decide), if_neg hsize]
    rfl
  have hquery : Request.AsksFor {} Subject.twoCalls (secondPage "query") .queryLogs secondBody
      (Subject.loggedCalls.assemble {} "p" none []) :=
    ⟨rfl, hread _, .loggedCalls, "p", by decide +kernel, rfl, rfl⟩
  have hcount : Request.AsksFor {} Subject.twoCalls (secondPage "count") .countLogs secondBody
      (Subject.loggedCalls.assemble {} "p" none []) :=
    ⟨rfl, hread _, .loggedCalls, "p", by decide +kernel, rfl, rfl⟩
  have hids : Subject.twoCalls.fetchIds
      (.select (Subject.loggedCalls.assemble {} "p" none []) .sqlite .ids) = .ok ["a", "b"] :=
    Subject.fetchIds_compile_of_pairwise Subject.reachable_twoCalls.wellFormed
      (rfl : Subject.loggedCalls.compile {} "p" [] none = .ok _) rfl (by decide) (by decide)
  have hanswer := (pages_tile_ids Subject.reachable_twoCalls hsmall).2
  have hshort : ¬(Subject.loggedCalls.assemble {} "p" none []).SearchesTooLong := by decide
  constructor
  · have hselects := (hanswer {} Subject.newYear _ _ _ _ _ hquery hids).selects (.inl rfl)
      (by decide)
    exact hselects.resolve_right fun hfails => hshort hfails.1
  · have hcounts := (hanswer {} Subject.newYear _ _ _ _ _ hcount hids).counts rfl
    exact hcounts.resolve_right fun hfails => hshort hfails.1

end Http
end LogFilter
