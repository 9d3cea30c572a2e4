import LogFilter.Proofs.ComparatorOrder
import LogFilter.Proofs.DecimalText
import LogFilter.Proofs.FirstOffence
import LogFilter.Proofs.PlannedOrder
import LogFilter.Proofs.SelectionNarrows

/-!
# Two Ways to Ask for a Status

The status of a call can be asked for in two ways. A selection compares the stored integer with
the status of a success, and a filter on the status compares the decimal text of the stored
integer with a text. The two ask for the same calls, because an integer is known by its decimal
text, and because a call without a response, or with a response without a status, has neither the
integer nor the text.

Also the two queries differ in their last condition only. Both of these conditions bind one value
and need no join, and the one on the text is the deeper one, but not so much that it would matter
where there are other conditions. So the limits that do not depend on the rows are exceeded by
both queries or by none. What remains is the order in which rows are looked at: the condition on
the integer can have the responses looked at first, and then a pattern that is too long may be
looked at by one of the queries and not by the other.

## Main definitions

* `Filter.ofStatus`, `Options.succeedingWith`: the two ways to ask for a status.
* `Sql.Query.andThen`: a query with one condition more.
* `Sql.AgreeUpToText`: whether two outcomes are the same, apart from the text of a query.
* `Subject.StatusPathsAgree`: how the results of the two ways agree.

## Main results

* `Sql.Query.check_andThen`: conditions of one depth at the end of a query are checked alike.
* `Subject.askedIds_ofStatus`: the filter asks for what the selection asks for.
* `Subject.statusPathsAgree`: the two ways agree.
* `Subject.statusPaths_apart`: a pattern that is too long tells them apart.
-/

namespace LogFilter

open Sql

/-! ### One condition more -/

namespace Sql

/-- Two outcomes **agree up to the text of a query** if they are the same, or if there are too
many placeholders in two texts. -/
inductive AgreeUpToText {α : Type} : Except Error α → Except Error α → Prop
  | same (outcome : Except Error α) : AgreeUpToText outcome outcome
  | params (sql other : String) (offset place : Nat) :
      AgreeUpToText (.error (.tooManyParams sql offset)) (.error (.tooManyParams other place))

/-- Outcomes that agree are one success, or failures that agree whatever would have come next. -/
theorem AgreeUpToText.ok_or_fails {α β : Type} {a b : Except Error α} (h : AgreeUpToText a b) :
    (∃ value, a = .ok value ∧ b = .ok value) ∨
      ∀ f g : α → Except Error β, AgreeUpToText (a >>= f) (b >>= g) := by
  cases h with
  | same =>
    cases a with
    | ok value => exact .inl ⟨value, rfl, rfl⟩
    | error e => exact .inr fun _ _ => .same (.error e)
  | params sql other offset place => exact .inr fun _ _ => .params sql other offset place

/-- Of outcomes that agree one is a success exactly if the other one is the same. -/
theorem AgreeUpToText.eq_ok_iff {α : Type} {a b : Except Error α} (h : AgreeUpToText a b)
    {value : α} : a = .ok value ↔ b = .ok value := by
  cases h with
  | same => exact Iff.rfl
  | params sql other offset place => exact ⟨nofun, nofun⟩

namespace Query

/-- A query with **one condition more**, the last one. -/
def andThen (query : Query) (predicate : Predicate) : Query :=
  { query with predicates := query.predicates ++ [predicate] }

/-- With one part more a conjunction is deeper by one than the deeper one of both. -/
theorem conjunctionDepth_snoc {predicates : List Predicate} (h : predicates ≠ [])
    (predicate : Predicate) : conjunctionDepth (predicates ++ [predicate]) =
      max (conjunctionDepth predicates) predicate.depth + 1 := by
  cases predicates with
  | nil => exact absurd rfl h
  | cons first rest => simp only [List.cons_append, conjunctionDepth, List.foldl_append,
      List.foldl_cons, List.foldl_nil]

/-- The last one of predicates that are read after others is read, if those before it are. -/
theorem length_params_readAfter_snoc {predicate other : Predicate}
    (h : (Fragment.params predicate.pieces).length = (Fragment.params other.pieces).length)
    (depth : Nat) (predicates : List Predicate) :
    ((readAfter depth (predicates ++ [predicate])).flatMap
        fun p => Fragment.params p.pieces).length =
      ((readAfter depth (predicates ++ [other])).flatMap
        fun p => Fragment.params p.pieces).length := by
  induction predicates generalizing depth with
  | nil => simpa [readAfter] using h
  | cons first rest ih =>
    simp only [List.cons_append, readAfter]
    split
    · rfl
    · simp only [List.flatMap_cons, List.length_append, ih]

/-- As many placeholders are read whichever of two conditions with as many is the last one. -/
theorem length_params_readPieces_andThen {query : Query} (hne : query.predicates ≠ [])
    {predicate other : Predicate}
    (hparams : (Fragment.params predicate.pieces).length = (Fragment.params other.pieces).length)
    (hdepth : max (conjunctionDepth query.predicates) predicate.depth =
      max (conjunctionDepth query.predicates) other.depth) :
    ((query.andThen predicate).readPieces .ids).params.length =
      ((query.andThen other).readPieces .ids).params.length := by
  have hconjunction : conjunctionDepth (query.andThen predicate).predicates =
      conjunctionDepth (query.andThen other).predicates := by
    rw [andThen, andThen, conjunctionDepth_snoc hne, conjunctionDepth_snoc hne, hdepth]
  obtain ⟨first, rest, hfirst⟩ := List.exists_cons_of_ne_nil hne
  have hread := length_params_readAfter_snoc hparams first.depth rest
  rw [readPieces, readPieces, hconjunction]
  split
  · simp only [andThen, hfirst, List.cons_append, readPredicates, Fragment.params_append,
      Fragment.params_conjunction, List.flatMap_cons, List.length_append, hread]
  · simp only [body, andThen, tail, ordering, Fragment.params_append, Fragment.params,
      Fragment.params_conjunction, List.flatMap_append, List.flatMap_cons, List.flatMap_nil,
      List.append_nil, List.length_append, hparams]

/-- **Conditions at the end of a query are checked alike** if they bind as many values and make
the conjunction as deep. -/
theorem check_andThen {query : Query} (hne : query.predicates ≠ []) {predicate other : Predicate}
    (hparams : (Fragment.params predicate.pieces).length = (Fragment.params other.pieces).length)
    (hdepth : max (conjunctionDepth query.predicates) predicate.depth =
      max (conjunctionDepth query.predicates) other.depth) :
    AgreeUpToText ((query.andThen predicate).check .ids) ((query.andThen other).check .ids) := by
  have hread := length_params_readPieces_andThen hne hparams hdepth
  have hwhole : (query.andThen predicate).depth = (query.andThen other).depth := by
    simp only [depth, andThen, conjunctionDepth_snoc hne, hdepth]
  have hjoins : (query.andThen predicate).joins = (query.andThen other).joins := rfl
  rw [check, check, hread, hwhole, hjoins]
  split
  · exact .same _
  split
  · exact .params _ _ _ _
  · exact .same _

end Query

end Sql

/-! ### Asking for a status -/

/-- The filter that asks for a **status by its decimal text**. -/
def Filter.ofStatus (status : Int) : Filter :=
  Filter.make "Status Code" .equals (toString status)

/-- Options under which a selection asks for **another status**. -/
def Options.succeedingWith (options : Options) (status : Int) : Options :=
  { options with successStatus := status }

namespace Selection

/-- The exceptions of a selection from which nothing is excepted. -/
theorem isEmpty_deselectedIds_allExcept_nil : (allExcept []).deselectedIds.isEmpty = true := by
  simp [allExcept, NameSet.ofList, NameSet.isEmpty, lastByName, sortByName, lastOfRuns]

/-- A selection from which nothing is excepted asks for every id. -/
theorem asksFor_allExcept_nil (id : String) : (allExcept []).asksFor id = true := by
  have hdefault : (allExcept []).defaultToSelected = true := rfl
  rw [asksFor, if_pos hdefault, NameSet.contains_of_isEmpty isEmpty_deselectedIds_allExcept_nil]
  rfl

/-- It has no condition on the id. -/
theorem idPredicates_allExcept_nil (id : Column) : (allExcept []).idPredicates id = [] := by
  have hdefault : (allExcept []).defaultToSelected = true := rfl
  rw [idPredicates, if_pos hdefault, if_pos isEmpty_deselectedIds_allExcept_nil]

end Selection

/-- **A record satisfies the filter if it has the status.** -/
theorem Store.satisfies_ofStatus {store : Store} {options : Options} {record : Record}
    (hrecord : record ∈ store.records .loggedCalls) (status : Int) :
    store.satisfies options record (.ofStatus status) = store.hasStatus status record := by
  obtain ⟨call, -, rfl⟩ := List.mem_map.mp hrecord
  have hspecified : (Filter.ofStatus status).specified? = some (toString status) :=
    Filter.specified?_make (toString_int_ne_empty status) _ _
  have htoken : Comparator.ofToken (Filter.ofStatus status).comparator = .ok .equals := rfl
  have htext : store.callText? call (Filter.ofStatus status).field =
      ((store.response? call.id).bind ModelResponse.statusCode).map toString := rfl
  simp only [satisfies, hspecified, htoken, admits, htext, Comparator.admits, hasStatus]
  cases (store.response? call.id).bind ModelResponse.statusCode with
  | none => rfl
  | some stored =>
    rw [Bool.eq_iff_iff, beq_iff_eq, beq_iff_eq, Option.map_some, Option.some.injEq,
      Option.some.injEq, toString_int_inj]

namespace Subject

variable {options : Options} {scopeId : String} {filters : List Filter} {store : Store}
  {query : Query} {status : Int} {e : Error}

/-- **The filter asks for what the selection asks for**, whatever the other filters are. -/
theorem askedIds_ofStatus (store : Store) (options : Options) (scopeId : String)
    (filters : List Filter) (status : Int) :
    store.askedIds loggedCalls (options.succeedingWith status) scopeId filters
        (some (.allExcept [])) =
      store.askedIds loggedCalls options scopeId (filters ++ [.ofStatus status]) none := by
  have hmeets : ∀ record ∈ store.records loggedCalls,
      store.meets (options.succeedingWith status) scopeId filters (some (.allExcept [])) record =
        store.meets options scopeId (filters ++ [.ofStatus status]) none record := by
    intro record hrecord
    rw [Store.meets_append_singleton, Store.satisfies_ofStatus hrecord, Store.meets, Store.meets,
      Store.selects, Store.selects, Selection.asksFor_allExcept_nil, Bool.true_and, Bool.and_true]
    rfl
  rw [Store.askedIds, Store.askedIds, Store.asked, Store.asked, List.filter_congr hmeets]

/-- A list of filters adds the same under options that ask for another status. -/
theorem clausesFrom_succeedingWith (options : Options) (status : Int) (position : Nat)
    (filters : List Filter) : loggedCalls.clausesFrom (options.succeedingWith status) position
      filters = loggedCalls.clausesFrom options position filters := by
  induction filters generalizing position with
  | nil => rfl
  | cons filter rest ih =>
    have hfirst : loggedCalls.clause? (options.succeedingWith status) position filter =
        loggedCalls.clause? options position filter := rfl
    rw [clausesFrom, clausesFrom, hfirst, ih]

/-- The column of the status. -/
def statusColumn : Column := ⟨"lcmr", "statusCode"⟩

/-- The condition that compares the stored integer with a status. -/
def integerCondition (status : Int) : Predicate :=
  .eq (.column statusColumn) (.integer status)

/-- The condition that compares the text of the stored integer with that of a status. -/
def textCondition (status : Int) : Predicate :=
  .eq (.text statusColumn) (.text (toString status))

/-- With the selection filters compile to the query that they compile to without it, and the
condition on the integer. -/
theorem compile_selection_eq_ok_iff :
    loggedCalls.compile (options.succeedingWith status) scopeId filters (some (.allExcept [])) =
        .ok query ↔
      ∃ clauses, loggedCalls.AddsAll options 0 filters clauses ∧
        query = (loggedCalls.assemble options scopeId none clauses).andThen
          (integerCondition status) := by
  have hassemble (clauses : List Clause) :
      loggedCalls.assemble (options.succeedingWith status) scopeId (some (.allExcept [])) clauses =
        (loggedCalls.assemble options scopeId none clauses).andThen (integerCondition status) := by
    have hpredicates : (Selection.allExcept []).predicates loggedCalls.id loggedCalls.status status =
        [integerCondition status] := by
      rw [Selection.predicates, Selection.idPredicates_allExcept_nil]
      rfl
    simp only [assemble, Query.andThen, Options.succeedingWith, hpredicates, List.append_nil]
  simp only [compile_eq_ok_iff, hassemble, ← clausesFrom_eq_ok_iff, clausesFrom_succeedingWith]

/-- The filter on the status adds the condition on the text. -/
theorem adds_ofStatus (options : Options) (position : Nat) (status : Int) :
    loggedCalls.Adds options position (.ofStatus status) (some ⟨none, textCondition status⟩) := by
  have hspecified := Filter.specified?_make (toString_int_ne_empty status) "Status Code" .equals
  have htoken : Comparator.ofToken (Filter.ofStatus status).comparator = .ok .equals := rfl
  have hfield : loggedCalls.field? (Filter.ofStatus status).field = some .statusCode := rfl
  exact .column hspecified htoken hfield

/-- With the filter at their end filters compile to the query that they compile to without it,
and the condition on the text. -/
theorem compile_ofStatus_eq_ok_iff :
    loggedCalls.compile options scopeId (filters ++ [.ofStatus status]) none = .ok query ↔
      ∃ clauses, loggedCalls.AddsAll options 0 filters clauses ∧
        query = (loggedCalls.assemble options scopeId none clauses).andThen
          (textCondition status) := by
  have hassemble (clauses : List Clause) :
      loggedCalls.assemble options scopeId none (clauses ++ [⟨none, textCondition status⟩]) =
        (loggedCalls.assemble options scopeId none clauses).andThen (textCondition status) := by
    simp [assemble, Query.andThen]
  simp only [compile_eq_ok_iff, AddsAll.append_iff]
  constructor
  · rintro ⟨_, ⟨front, _, hfront, hback, rfl⟩, rfl⟩
    cases hback with
    | cons hlast hnil =>
      cases hnil
      have hsame := (clause?_eq_ok_iff.mpr hlast).symm.trans
        (clause?_eq_ok_iff.mpr (adds_ofStatus options _ status))
      obtain rfl := Except.ok.inj hsame
      exact ⟨front, hfront, hassemble front⟩
  · rintro ⟨front, hfront, rfl⟩
    exact ⟨_, ⟨front, _, hfront, .cons (adds_ofStatus options _ status) .nil, rfl⟩,
      (hassemble front).symm⟩

/-- **The two ways fail with the same error**, that of the first filter that offends: the filter on
the status never does. -/
theorem compile_eq_error_iff_ofStatus :
    loggedCalls.compile (options.succeedingWith status) scopeId filters (some (.allExcept [])) =
        .error e ↔
      loggedCalls.compile options scopeId (filters ++ [.ofStatus status]) none = .error e := by
  have hsame : options.SamePolicy (options.succeedingWith status) := ⟨rfl, rfl⟩
  rw [compile_eq_error_iff, compile_eq_error_iff]
  refine Iff.trans ⟨FirstOffence.congr hsame.symm, FirstOffence.congr hsame⟩ ?_
  have hlast (e : Error) : ¬loggedCalls.Offends options (.ofStatus status) e := fun h =>
    (exists_clause?_eq_ok_iff 0).mp ⟨_, clause?_eq_ok_iff.mpr (adds_ofStatus options 0 status)⟩ e h
  induction filters with
  | nil =>
    rw [List.nil_append, firstOffence_cons_iff]
    exact ⟨fun h => .inr ⟨hlast, h⟩, fun h => h.elim (fun h => absurd h (hlast e)) And.right⟩
  | cons filter rest ih =>
    rw [List.cons_append, firstOffence_cons_iff, firstOffence_cons_iff]
    exact or_congr_right (and_congr_right fun _ => ih)

/-! ### The two queries -/

/-- **The two queries are checked alike.** The condition on the text is deeper by one, which makes
no difference where there are other conditions than that on the project; and where there are none
both queries are small. -/
theorem check_andThen_status {clauses : List Clause} :
    AgreeUpToText
      (((loggedCalls.assemble options scopeId none clauses).andThen
        (integerCondition status)).check .ids)
      (((loggedCalls.assemble options scopeId none clauses).andThen
        (textCondition status)).check .ids) := by
  cases clauses with
  | nil =>
    have hinteger : ((loggedCalls.assemble options scopeId none []).andThen
      (integerCondition status)).check .ids = .ok () := rfl
    have htext : ((loggedCalls.assemble options scopeId none []).andThen
      (textCondition status)).check .ids = .ok () := rfl
    rw [hinteger, htext]
    exact .same _
  | cons clause rest =>
    refine Query.check_andThen (List.cons_ne_nil _ _) rfl ?_
    have hconditions : (loggedCalls.assemble options scopeId none (clause :: rest)).predicates =
        .eq (.column ⟨"lc", "projectId"⟩) (.text scopeId) ::
          (clause.predicate :: rest.map Clause.predicate) := by
      rw [assemble, List.append_nil]
      rfl
    have hdepth := add_length_le_foldl_depth Predicate.depth
      (clause.predicate :: rest.map Clause.predicate) 3
    have hwhole : 4 ≤ conjunctionDepth
        (loggedCalls.assemble options scopeId none (clause :: rest)).predicates := by
      rw [hconditions]
      refine Nat.le_trans ?_ hdepth
      rw [List.length_cons]
      omega
    have hinteger : (integerCondition status).depth = 3 := rfl
    have htext : (textCondition status).depth = 4 := rfl
    omega

/-- With the selection a query searches for a pattern that is too long only if a filter does. -/
theorem any_isTooLong_of_selection
    (hquery : loggedCalls.compile (options.succeedingWith status) scopeId filters
      (some (.allExcept [])) = .ok query) (hlong : query.SearchesTooLong) :
    filters.any (Filter.isTooLong options.wildcards) = true :=
  @any_isTooLong_of_compile _ (options.succeedingWith status) _ _ _ _ hquery hlong

/-- With the filter on the status it does so only if one of the others does. -/
theorem any_isTooLong_of_ofStatus
    (hquery : loggedCalls.compile options scopeId (filters ++ [.ofStatus status]) none = .ok query)
    (hlong : query.SearchesTooLong) :
    filters.any (Filter.isTooLong options.wildcards) = true := by
  have hstatus : (Filter.ofStatus status).isTooLong options.wildcards = false := by
    refine Bool.eq_false_iff.mpr fun h => ?_
    obtain ⟨hpattern, -⟩ := (Filter.isTooLong_make (toString_int_ne_empty status)).mp h
    exact absurd hpattern (by decide)
  have hany := any_isTooLong_of_compile hquery hlong
  rwa [List.any_append, List.any_cons, hstatus, List.any_nil, Bool.or_self, Bool.or_false] at hany

/-- How **the results of the two ways agree**. -/
structure StatusPathsAgree (store : Store) (options : Options) (scopeId : String)
    (filters : List Filter) (status : Int) : Prop where
  /-- They fail to compile with the same errors. -/
  fails : ∀ e,
    loggedCalls.compile (options.succeedingWith status) scopeId filters (some (.allExcept [])) =
        .error e ↔
      loggedCalls.compile options scopeId (filters ++ [.ofStatus status]) none = .error e
  /-- Both queries are answered, as far as they can be run, with the same ids. -/
  answers : ∀ byInteger byText,
    loggedCalls.compile (options.succeedingWith status) scopeId filters (some (.allExcept [])) =
      .ok byInteger →
    loggedCalls.compile options scopeId (filters ++ [.ofStatus status]) none = .ok byText →
    store.Answers byInteger
        (store.askedIds loggedCalls options scopeId (filters ++ [.ofStatus status]) none) ∧
      store.Answers byText
        (store.askedIds loggedCalls options scopeId (filters ++ [.ofStatus status]) none)
  /-- Their outcomes are the same, unless a filter searches for a pattern that is too long and one
  of the queries looks at it. -/
  outcomes : ∀ byInteger byText,
    loggedCalls.compile (options.succeedingWith status) scopeId filters (some (.allExcept [])) =
      .ok byInteger →
    loggedCalls.compile options scopeId (filters ++ [.ofStatus status]) none = .ok byText →
    AgreeUpToText (store.fetchIds (.select byInteger .sqlite .ids))
        (store.fetchIds (.select byText .sqlite .ids)) ∨
      filters.any (Filter.isTooLong options.wildcards) = true ∧
        (store.fetchIds (.select byInteger .sqlite .ids) = .error .patternTooLong ∨
          store.fetchIds (.select byText .sqlite .ids) = .error .patternTooLong)

/-- **The two ways to ask for a status agree**: in every reachable store, for any project, filters,
options and status. -/
theorem statusPathsAgree (hstore : store.Reachable) (options : Options) (scopeId : String)
    (filters : List Filter) (status : Int) :
    StatusPathsAgree store options scopeId filters status where
  fails := fun _ => compile_eq_error_iff_ofStatus
  answers := by
    refine fun byInteger byText hinteger htext => ⟨?_, answers_compile hstore.wellFormed htext⟩
    rw [← askedIds_ofStatus]
    exact answers_compile hstore.wellFormed hinteger
  outcomes := by
    intro byInteger byText hinteger htext
    have hchecked : AgreeUpToText (byInteger.check .ids) (byText.check .ids) := by
      obtain ⟨clauses, hclauses, rfl⟩ := compile_selection_eq_ok_iff.mp hinteger
      obtain ⟨others, hothers, rfl⟩ := compile_ofStatus_eq_ok_iff.mp htext
      have hsame := (clausesFrom_eq_ok_iff.mpr hclauses).symm.trans
        (clausesFrom_eq_ok_iff.mpr hothers)
      obtain rfl := Except.ok.inj hsame
      exact check_andThen_status
    rw [fetchIds_compile_eq hstore.wellFormed hinteger, fetchIds_compile_eq hstore.wellFormed htext,
      ← Store.askedIds, ← Store.askedIds, askedIds_ofStatus]
    rcases hchecked.ok_or_fails with ⟨_, hcheck, hcheck'⟩ | hfails
    · rw [hcheck, hcheck']
      rcases scan_compile_cases hinteger store.engine store.tables .ids with
        hscan | ⟨hlong, hscan⟩
      · rcases scan_compile_cases htext store.engine store.tables .ids with
          hscan' | ⟨hlong, hscan'⟩
        · rw [hscan, hscan']
          exact .inl (.same _)
        · rw [hscan']
          exact .inr ⟨any_isTooLong_of_ofStatus htext hlong, .inr rfl⟩
      · rw [hscan]
        exact .inr ⟨any_isTooLong_of_selection hinteger hlong, .inl rfl⟩
    · exact .inl (hfails _ _)

/-- Of the two calls, which have one status, either way finds that with the tag. -/
theorem statusPathsAgree_twoCalls : ∃ byInteger byText,
    loggedCalls.compile (Options.succeedingWith {} 200) "p" [⟨"env", "=", some "prod"⟩]
        (some (.allExcept [])) = .ok byInteger ∧
      loggedCalls.compile {} "p" ([⟨"env", "=", some "prod"⟩] ++ [.ofStatus 200]) none =
        .ok byText ∧
      twoCalls.fetchIds (.select byText .sqlite .ids) = .ok ["b"] ∧
      twoCalls.fetchIds (.select byInteger .sqlite .ids) = .ok ["b"] := by
  have hagree := statusPathsAgree reachable_twoCalls {} "p" [⟨"env", "=", some "prod"⟩] 200
  have htext : loggedCalls.compile {} "p" ([⟨"env", "=", some "prod"⟩] ++ [.ofStatus 200]) none =
      .ok _ := rfl
  obtain ⟨clauses, hclauses, -⟩ := compile_ofStatus_eq_ok_iff.mp htext
  have hinteger := (@compile_selection_eq_ok_iff {} "p" _ _ 200).mpr ⟨clauses, hclauses, rfl⟩
  have hids : twoCalls.fetchIds (.select _ .sqlite .ids) = .ok ["b"] :=
    fetchIds_compile_of_pairwise reachable_twoCalls.wellFormed htext
      (Query.check_eq_ok_iff.mpr (by decide)) (by decide) (by decide)
  refine ⟨_, _, hinteger, htext, hids, ?_⟩
  rcases hagree.outcomes _ _ hinteger htext with hsame | ⟨hlong, -⟩
  · exact hsame.eq_ok_iff.mpr hids
  · exact absurd hlong (by decide)

/-- The query of a search for a model, with one condition more. -/
def modelSearch (value : String) (last : Predicate) : Query :=
  (loggedCalls.assemble {} "p" none
    [⟨none, .like KnownField.model.operand (.containing value)⟩]).andThen last

/-- The conditions of the query. -/
theorem mem_predicates_modelSearch {value : String} {last predicate : Predicate} :
    predicate ∈ (modelSearch value last).predicates ↔
      predicate = .eq (.column ⟨"lc", "projectId"⟩) (.text "p") ∨
        predicate = .like KnownField.model.operand (.containing value) ∨ predicate = last := by
  have hpredicates : (modelSearch value last).predicates =
      [.eq (.column ⟨"lc", "projectId"⟩) (.text "p"),
        .like KnownField.model.operand (.containing value), last] := rfl
  simp only [hpredicates, List.mem_cons, List.not_mem_nil, or_false]

/-- **The condition on the integer has the responses looked at first**: a row without a status is
left out before its model is looked at. -/
theorem not_failsInTurn_modelSearch (value : String) {row : JoinedRow}
    (hrow : row.cell statusColumn = .null) (status : Int) :
    failsInTurn row ((modelSearch value (integerCondition status)).inTurn .ids) = false := by
  have hturn : (modelSearch value (integerCondition status)).turn .ids (integerCondition status) =
      2 := rfl
  have hfalse : (integerCondition status).truth row ≠ some true := by
    have hunknown : (integerCondition status).truth row = none := by
      rw [integerCondition, Predicate.truth, Operand.cell, hrow]
      rfl
    rw [hunknown]
    exact (Option.some_ne_none true).symm
  refine Query.not_failsInTurn_inTurn (mem_predicates_modelSearch.mpr (.inr (.inr rfl))) hfalse ?_
  intro other hother hplace
  rcases mem_predicates_modelSearch.mp hother with rfl | rfl | rfl
  · rfl
  · have hlater : (modelSearch value (integerCondition status)).turn .ids
        (.like KnownField.model.operand (.containing value)) = 3 := rfl
    omega
  · rfl

/-- **The condition on the text has the calls looked at first**: of a call of the project the
model is looked at before the status. -/
theorem failsInTurn_modelSearch {value : String}
    (hlong : maxPatternBytes < (LikePattern.containing value).pattern.utf8ByteSize)
    {row : JoinedRow} (hrow : row.cell ⟨"lc", "projectId"⟩ = .text "p") (status : Int) :
    failsInTurn row ((modelSearch value (textCondition status)).inTurn .ids) = true := by
  have hturn : (modelSearch value (textCondition status)).turn .ids
      (.like KnownField.model.operand (.containing value)) = 2 := rfl
  have htooLong : (Predicate.like KnownField.model.operand (.containing value)).isTooLong = true :=
    decide_eq_true hlong
  refine Query.failsInTurn_inTurn (mem_predicates_modelSearch.mpr (.inr (.inl rfl))) htooLong ?_
  intro other hother hplace
  rcases mem_predicates_modelSearch.mp hother with rfl | rfl | rfl
  · right
    simp [Predicate.truth, Operand.cell, hrow, Scalar.cell, Cell.equal]
  · exact .inl htooLong
  · have hlater : (modelSearch value (textCondition status)).turn .ids (textCondition status) =
        3 := rfl
    omega

/-- Both ways to ask for a status, together with a search for a model, compile to such queries. -/
theorem compile_modelSearch {value : String} (hvalue : value ≠ "") (status : Int) :
    loggedCalls.compile (Options.succeedingWith {} status) "p"
        [Filter.make "model" .contains value] (some (.allExcept [])) =
          .ok (modelSearch value (integerCondition status)) ∧
      loggedCalls.compile {} "p" ([Filter.make "model" .contains value] ++ [.ofStatus status]) none =
        .ok (modelSearch value (textCondition status)) := by
  have hspecified := Filter.specified?_make hvalue "model" .contains
  have htoken : Comparator.ofToken (Filter.make "model" .contains value).comparator =
      .ok .contains := Comparator.contains.ofToken_token
  have hadds : loggedCalls.Adds {} 0 (Filter.make "model" .contains value)
      (some ⟨none, .like KnownField.model.operand (.containing value)⟩) :=
    .column hspecified htoken rfl
  exact ⟨compile_selection_eq_ok_iff.mpr ⟨_, .cons hadds .nil, rfl⟩,
    compile_ofStatus_eq_ok_iff.mpr ⟨_, .cons hadds .nil, rfl⟩⟩

/-- **A pattern that is too long tells the two ways apart**: a call without a response is left out
by its status, and its model is looked at before that or not at all. -/
theorem statusPaths_apart : (callOfModel "m").Reachable ∧ ∃ byInteger byText,
    loggedCalls.compile (Options.succeedingWith {} 200) "p"
        [Filter.make "model" .contains (letters maxPatternBytes)] (some (.allExcept [])) =
          .ok byInteger ∧
      loggedCalls.compile {} "p"
        ([Filter.make "model" .contains (letters maxPatternBytes)] ++ [.ofStatus 200]) none =
          .ok byText ∧
      (callOfModel "m").fetchIds (.select byInteger .sqlite .ids) = .ok [] ∧
      (callOfModel "m").fetchIds (.select byText .sqlite .ids) = .error .patternTooLong := by
  have hbytes := utf8ByteSize_letters maxPatternBytes
  -- The text itself is never looked at: its size is all that matters.
  generalize letters maxPatternBytes = value at hbytes
  have hvalue : value ≠ "" := by
    rintro rfl
    cases hbytes
  have hlong := maxPatternBytes_lt_containing (Nat.le_of_eq hbytes.symm)
  have hstore : (callOfModel "m").Reachable := ⟨_, _, rfl⟩
  obtain ⟨hinteger, htext⟩ := compile_modelSearch hvalue 200
  refine ⟨hstore, _, _, hinteger, htext, ?_, ?_⟩
  · have htoo : (modelSearch value (integerCondition 200)).SearchesTooLong :=
      ⟨_, mem_predicates_modelSearch.mpr (.inr (.inl rfl)), decide_eq_true hlong⟩
    refine fetchIds_planned_eq_nil hstore.wellFormed rfl hinteger rfl htoo fun record hrecord => ?_
    obtain rfl := List.mem_singleton.mp hrecord
    exact not_failsInTurn_modelSearch value rfl 200
  · exact fetchIds_planned_eq_error hstore.wellFormed rfl htext rfl List.mem_cons_self
      (failsInTurn_modelSearch hlong rfl 200)

end Subject

end LogFilter
