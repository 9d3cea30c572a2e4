import LogFilter.Proofs.Outcomes
import LogFilter.Proofs.QueryLimits
import LogFilter.Proofs.RecordOrder

/-!
# The Meaning of Compiled Queries

Running a compiled query selects the records that its scope, its filters and its selection ask
for, and each of them once. The proof puts the pieces together: the joins leave one joined row
for each record, the conditions decide of that row what the filters mean of the record, and
sorting changes only the order.

The compiler does not know the limits of the database, so there are queries that compile and
cannot be run. Apart from them a compiled query has a result in every reachable store, and one
that exceeds a limit fails as soon as there is any record that it asks for.

## Main results

* `Subject.rows_compile`: the rows of a compiled query are those of the records that are asked
  for.
* `Subject.fetchIds_compile_eq`, `Subject.fetchIds_page_compile_eq`, `Subject.count_compile_eq`:
  what a compiled query gives under each projection.
* `Subject.fetchIds_compile`: the result of a compiled query is what its filters mean, unless
  the query exceeds a limit.
* `Subject.fetchIds_compile_ne_ok`: a query that exceeds a limit fails where it has a result.
-/

namespace LogFilter

open Sql

/-! ### Results -/

/-- A result whose cells are texts is read as these. -/
theorem Sql.ResultSet.texts_map {α : Type} (column : String) (f : α → String) (sources : List α) :
    ResultSet.texts ⟨column, sources.map fun source => .text (f source)⟩ =
      .ok (sources.map f) := by
  induction sources with
  | nil => rfl
  | cons source rest ih =>
    simp only [ResultSet.texts, List.map_cons, List.mapM_cons] at ih ⊢
    rw [ih]
    rfl

/-! ### Patterns that are too long -/

/-- Whether a query **searches for a pattern that is too long**. -/
def Sql.Query.SearchesTooLong (query : Query) : Prop :=
  ∃ predicate ∈ query.predicates, predicate.isTooLong = true

instance (query : Query) : Decidable query.SearchesTooLong :=
  inferInstanceAs (Decidable (∃ predicate ∈ query.predicates, predicate.isTooLong = true))

/-- A well scoped query searches for a pattern that is too long if it has one in any condition:
its joins have none. -/
theorem Sql.Query.WellScoped.searchesTooLong {query : Query} (hscoped : query.WellScoped)
    (h : ∃ predicate ∈ query.conditions, predicate.isTooLong = true) : query.SearchesTooLong := by
  obtain ⟨predicate, hmem, hlong⟩ := h
  rcases List.mem_append.mp hmem with hjoined | hown
  · obtain ⟨join, hjoin, hon⟩ := List.mem_flatMap.mp hjoined
    rw [(hscoped.plain join hjoin predicate hon).1] at hlong
    cases hlong
  · exact ⟨predicate, hown, hlong⟩

/-- Two results **agree up to patterns** if they are the same, or if there is a pattern that is
too long and one of them is the error that tells it. -/
def AgreeUnless {α : Type} (long : Prop) (a b : Except Error α) : Prop :=
  a = b ∨ long ∧ (a = .error .patternTooLong ∨ b = .error .patternTooLong)

namespace AgreeUnless

variable {α β : Type} {long long' : Prop} {a b : Except Error α}

/-- What is done next with results that agree agrees. -/
theorem bind (h : AgreeUnless long a b) (f : α → Except Error β) :
    AgreeUnless long (a >>= f) (b >>= f) := by
  rcases h with rfl | ⟨hlong, rfl | rfl⟩
  · exact .inl rfl
  · exact .inr ⟨hlong, .inl rfl⟩
  · exact .inr ⟨hlong, .inr rfl⟩

/-- What is made of results that agree agrees. -/
theorem map (h : AgreeUnless long a b) (f : α → β) : AgreeUnless long (a.map f) (b.map f) := by
  rcases h with rfl | ⟨hlong, rfl | rfl⟩
  · exact .inl rfl
  · exact .inr ⟨hlong, .inl rfl⟩
  · exact .inr ⟨hlong, .inr rfl⟩

/-- Results that agree are the same where no pattern is too long. -/
theorem eq_of_not (h : AgreeUnless long a b) (hshort : ¬long) : a = b :=
  h.resolve_right fun hboth => hshort hboth.1

/-- A result that agrees with a value has it, or fails at the pattern. -/
theorem eq_ok_or {value : α} (h : AgreeUnless long a (.ok value)) :
    a = .ok value ∨ long ∧ a = .error .patternTooLong := by
  rcases h with hok | ⟨hlong, herror | herror⟩
  · exact .inl hok
  · exact .inr ⟨hlong, herror⟩
  · cases herror

/-- Results agree where the pattern that is too long is found in something larger. -/
theorem imp (h : AgreeUnless long a b) (himp : long → long') : AgreeUnless long' a b :=
  Or.imp_right (And.imp_left himp) h

end AgreeUnless

/-- Whether a filter **searches for a pattern that is too long**. -/
def Filter.isTooLong (wildcards : Wildcards) (filter : Filter) : Bool :=
  match filter.specified?, Comparator.ofToken filter.comparator with
  | some value, .ok .contains | some value, .ok .notContains =>
      decide (maxPatternBytes < (wildcards.containing value).pattern.utf8ByteSize)
  | _, _ => false

/-- A filter has its value if that is not empty. -/
theorem Filter.specified?_of_pos {field comparator value : String}
    (h : 0 < value.utf8ByteSize) :
    Filter.specified? ⟨field, comparator, some value⟩ = some value := by
  have hempty : value.isEmpty = false := by
    rw [String.isEmpty, beq_eq_false_iff_ne]
    omega
  simp only [specified?, Option.filter_some, hempty, Bool.not_false, if_true]

/-- The pattern of a value is longer than the value. -/
theorem maxPatternBytes_lt_containing {value : String}
    (h : maxPatternBytes ≤ value.utf8ByteSize) :
    maxPatternBytes < (LikePattern.containing value).pattern.utf8ByteSize := by
  have hpercent : "%".utf8ByteSize = 1 := rfl
  change maxPatternBytes < ("%" ++ value ++ "%").utf8ByteSize
  rw [String.utf8ByteSize_append, String.utf8ByteSize_append]
  omega

/-- The condition of a comparator has a pattern that is too long if its filter searches for
one. -/
theorem Filter.isTooLong_eq {filter : Filter} {wildcards : Wildcards} {value : String}
    {comparator : Comparator} (hvalue : filter.specified? = some value)
    (hcomparator : Comparator.ofToken filter.comparator = .ok comparator) (operand : Operand) :
    filter.isTooLong wildcards = (comparator.predicate wildcards value operand).isTooLong := by
  rw [isTooLong, hvalue, hcomparator]
  cases comparator <;> rfl

namespace Subject

variable {subject : Subject} {options : Options}

/-- A clause has a pattern that is too long only if one of its filters searches for it. -/
theorem AddsAll.any_isTooLong {position : Nat} {filters : List Filter} {clauses : List Clause}
    (h : subject.AddsAll options position filters clauses) {clause : Clause}
    (hmem : clause ∈ clauses) (hlong : clause.predicate.isTooLong = true) :
    filters.any (Filter.isTooLong options.wildcards) = true := by
  induction h with
  | nil => cases hmem
  | cons hfirst _ ih =>
    rw [List.any_cons, Bool.or_eq_true]
    rcases List.mem_append.mp hmem with hadded | hlater
    · left
      obtain rfl := Option.mem_toList.mp hadded
      cases hfirst with
      | column hvalue hcomparator => rw [Filter.isTooLong_eq hvalue hcomparator]; exact hlong
      | tag hvalue hcomparator => rw [Filter.isTooLong_eq hvalue hcomparator]; exact hlong
    · exact .inr (ih hlater)

/-- A compiled query searches for a pattern that is too long only if one of its filters does:
scopes and selections have no patterns. -/
theorem any_isTooLong_of_compile {scopeId : String} {filters : List Filter}
    {selection : Option Selection} {query : Query}
    (hquery : subject.compile options scopeId filters selection = .ok query)
    (hlong : query.SearchesTooLong) :
    filters.any (Filter.isTooLong options.wildcards) = true := by
  obtain ⟨clauses, hclauses, rfl⟩ := compile_eq_ok_iff.mp hquery
  obtain ⟨predicate, hmem, hlong⟩ := hlong
  rcases List.mem_append.mp hmem with hmem | hselected
  · rcases List.mem_append.mp hmem with hscope | hfilter
    · cases subject <;> simp only [scope, List.mem_cons, List.not_mem_nil, or_false] at hscope
      · rw [hscope] at hlong
        cases hlong
      · rcases hscope with rfl | rfl <;> cases hlong
    · obtain ⟨clause, hclause, rfl⟩ := List.mem_map.mp hfilter
      exact hclauses.any_isTooLong hclause hlong
  · cases selection with
    | none => cases hselected
    | some selection =>
      rcases List.mem_append.mp hselected with hids | hstatus
      · unfold Selection.idPredicates at hids
        split at hids <;> split at hids <;>
          simp only [List.mem_cons, List.not_mem_nil, or_false] at hids <;>
          rw [hids] at hlong <;> cases hlong
      · obtain ⟨_, _, rfl⟩ := List.mem_map.mp hstatus
        cases hlong

end Subject

/-! ### Records of a store -/

/-- In a well-formed store the records of a subject have distinct ids. -/
theorem Store.WellFormed.nodup_ids {store : Store} (h : store.WellFormed) (subject : Subject) :
    ((store.records subject).map Record.id).Nodup := by
  cases subject with
  | loggedCalls => simpa [records, Function.comp_def, Record.id] using h.callIds
  | datasetEntries => simpa [records, Function.comp_def, Record.id] using h.entryIds

namespace Subject

variable {subject : Subject} {options : Options} {scopeId : String} {filters : List Filter}
  {selection : Option Selection} {store : Store}

/-- In a well-formed store the records that are asked for have distinct ids. -/
theorem nodup_map_id_asked (hstore : store.WellFormed) :
    ((store.asked subject options scopeId filters selection).map Record.id).Nodup := by
  have hsorted := List.mergeSort_perm ((store.records subject).filter
    (store.meets options scopeId filters selection)) Record.precedes
  exact (hsorted.map Record.id).nodup_iff.mpr
    ((hstore.nodup_ids subject).sublist (List.filter_sublist.map _))

/-- **To ask for less is to leave records out**: where one request asks for the records that
another one asks for and that are kept, these are left, in the same order. -/
theorem asked_eq_filter (hstore : store.WellFormed) {narrower : Options} {scope : String}
    {narrowing : List Filter} {picking : Option Selection} {keep : Record → Bool}
    (h : ∀ record ∈ store.records subject, store.meets narrower scope narrowing picking record =
      (keep record && store.meets options scopeId filters selection record)) :
    store.asked subject narrower scope narrowing picking =
      (store.asked subject options scopeId filters selection).filter keep := by
  have hnodup : (((store.records subject).filter
      (store.meets options scopeId filters selection)).map Record.id).Nodup :=
    (hstore.nodup_ids subject).sublist (List.filter_sublist.map _)
  rw [Store.asked, Store.asked, Record.filter_mergeSort hnodup, List.filter_filter]
  exact congrArg (List.mergeSort · Record.precedes) (List.filter_congr h)

/-- The joined rows of a compiled query in a well-formed store are one for each record of its
subject. -/
theorem joined_compile (hstore : store.WellFormed) {query : Query}
    (hquery : subject.compile options scopeId filters selection = .ok query) :
    query.joined store.tables =
      (store.records subject).map fun record => query.joinedRow store.tables record.row := by
  obtain ⟨clauses, hclauses, rfl⟩ := compile_eq_ok_iff.mp hquery
  rw [Query.joined_eq (hclauses.wellScoped scopeId selection)
    (hclauses.singleMatch hstore scopeId selection)]
  change (store.tables subject.table).map _ = _
  rw [store.tables_table, List.map_map]
  rfl

/-- The conditions of a compiled query say of a joined row whether its record is asked for. -/
theorem meets_predicates_iff {query : Query}
    (hquery : subject.compile options scopeId filters selection = .ok query) {record : Record}
    (hrecord : record ∈ store.records subject) :
    Meets (query.joinedRow store.tables record.row) query.predicates ↔
      store.meets options scopeId filters selection record = true := by
  obtain ⟨clauses, hclauses, rfl⟩ := compile_eq_ok_iff.mp hquery
  rw [hclauses.meets_predicates_iff scopeId selection hrecord]

/-- **The rows of a compiled query** are the joined rows of the records that are asked for. -/
theorem rows_compile (hstore : store.WellFormed) {query : Query}
    (hquery : subject.compile options scopeId filters selection = .ok query) :
    query.rows store.tables = ((store.records subject).filter
      (store.meets options scopeId filters selection)).map fun record =>
        query.joinedRow store.tables record.row := by
  rw [Query.rows, joined_compile hstore hquery, List.filter_map]
  refine congrArg (List.map _) (List.filter_congr fun record hrecord => ?_)
  rw [Bool.eq_iff_iff, Function.comp_apply, decide_eq_true_eq, meets_predicates_iff hquery hrecord]

/-- A compiled query has all its conditions in plain sight: its joins have no pattern. -/
theorem searchesTooLong_of_compile {query : Query}
    (hquery : subject.compile options scopeId filters selection = .ok query)
    (h : ∃ predicate ∈ query.conditions, predicate.isTooLong = true) : query.SearchesTooLong := by
  obtain ⟨clauses, hclauses, rfl⟩ := compile_eq_ok_iff.mp hquery
  exact (hclauses.wellScoped scopeId selection).searchesTooLong h

/-- **To look for the rows of a compiled query** succeeds, unless a pattern is too long. -/
theorem scan_compile_cases {query : Query}
    (hquery : subject.compile options scopeId filters selection = .ok query) (engine : Engine)
    (tables : Tables) (projection : Projection) :
    query.scan engine tables projection = .ok () ∨
      (query.SearchesTooLong ∧ query.scan engine tables projection = .error .patternTooLong) := by
  rw [Query.scan]
  split
  · next hfails =>
    have hlong := engine.exists_of_fails (Bool.and_eq_true_iff.mp hfails).2
    exact .inr ⟨searchesTooLong_of_compile hquery hlong, rfl⟩
  · exact .inl rfl

/-- **What comes of looking for the rows of a compiled query** is had, unless a pattern is too
long. -/
theorem scan_agree_ok {query : Query}
    (hquery : subject.compile options scopeId filters selection = .ok query) (engine : Engine)
    (tables : Tables) (projection : Projection) {α : Type} (value : α) :
    AgreeUnless query.SearchesTooLong
      (do query.scan engine tables projection; return value) (.ok value) := by
  rcases scan_compile_cases hquery engine tables projection with hscan | ⟨hlong, hscan⟩
  · exact .inl (by rw [hscan]; rfl)
  · exact .inr ⟨hlong, .inl (by rw [hscan]; rfl)⟩

/-- To look for the rows of a compiled query has the same outcome with all engines and tables, up to
patterns. -/
theorem scan_agree {query : Query}
    (hquery : subject.compile options scopeId filters selection = .ok query)
    (engine other : Engine) (tables others : Tables) (projection : Projection) :
    AgreeUnless query.SearchesTooLong (query.scan engine tables projection)
      (query.scan other others projection) := by
  rcases scan_compile_cases hquery engine tables projection with hscan | ⟨hlong, hscan⟩
  · rcases scan_compile_cases hquery other others projection with hother | ⟨hlong, hother⟩
    · exact .inl (hscan.trans hother.symm)
    · exact .inr ⟨hlong, .inr hother⟩
  · exact .inr ⟨hlong, .inl hscan⟩

/-- Where some record is asked for, to look for the rows of a query with a pattern that is too
long fails. -/
theorem scan_compile_of_asked (hstore : store.WellFormed) {query : Query}
    (hquery : subject.compile options scopeId filters selection = .ok query)
    (hlong : query.SearchesTooLong)
    (hasked : ∃ record ∈ store.records subject,
      store.meets options scopeId filters selection record = true) {projection : Projection}
    (hsome : projection.isEmpty = false) :
    query.scan store.engine store.tables projection = .error .patternTooLong := by
  obtain ⟨record, hrecord, hmeets⟩ := hasked
  obtain ⟨predicate, hmem, htoo⟩ := hlong
  have hrow : query.joinedRow store.tables record.row ∈ query.rows store.tables := by
    rw [rows_compile hstore hquery]
    exact List.mem_map_of_mem (List.mem_filter.mpr ⟨hrecord, hmeets⟩)
  rw [Query.scan, hsome, store.engine.fails_of_row hrow hmem htoo]
  rfl

/-- The joined row of a record gives its id under the id column of a compiled query. -/
theorem cell_id_joinedRow {query : Query}
    (hquery : subject.compile options scopeId filters selection = .ok query) {record : Record}
    (hrecord : record ∈ store.records subject) :
    (query.joinedRow store.tables record.row).cell query.id = .text record.id := by
  obtain ⟨clauses, hclauses, rfl⟩ := compile_eq_ok_iff.mp hquery
  exact cell_id hrecord (hclauses.represents scopeId selection hrecord)

/-- The ids of joined rows of records are those of the records. -/
theorem texts_joinedRows {query : Query}
    (hquery : subject.compile options scopeId filters selection = .ok query)
    {records : List Record} (hrecords : ∀ record ∈ records, record ∈ store.records subject) :
    ResultSet.texts ⟨query.id.name, (records.map fun record =>
        query.joinedRow store.tables record.row).map fun row => row.cell query.id⟩ =
      .ok (records.map Record.id) := by
  have hcells : (records.map fun record => query.joinedRow store.tables record.row).map
      (fun row => row.cell query.id) = records.map fun record => .text record.id := by
    rw [List.map_map]
    exact List.map_congr_left fun record hmem => cell_id_joinedRow hquery (hrecords record hmem)
  rw [hcells, ResultSet.texts_map]

/-- The rows of a compiled query, once they are sorted, are those of the records that are asked
for. -/
theorem sort_rows_compile (hstore : store.WellFormed) {query : Query}
    (hquery : subject.compile options scopeId filters selection = .ok query) :
    query.sort (query.rows store.tables) =
      (store.asked subject options scopeId filters selection).map
        fun record => query.joinedRow store.tables record.row := by
  rw [rows_compile hstore hquery]
  obtain ⟨clauses, hclauses, rfl⟩ := compile_eq_ok_iff.mp hquery
  exact hclauses.sort_joinedRows scopeId selection fun record hmem => (List.mem_filter.mp hmem).1

/-- **The ids that a compiled query selects** are those of the records that are asked for, in
their order; it fails only where its check does or the look for its rows. -/
theorem fetchIds_compile_eq (hstore : store.WellFormed) {query : Query}
    (hquery : subject.compile options scopeId filters selection = .ok query) :
    store.fetchIds (.select query .sqlite .ids) = do
      query.check .ids
      query.scan store.engine store.tables .ids
      return (store.asked subject options scopeId filters selection).map Record.id := by
  have htexts : (query.result store.tables .ids).texts =
      .ok ((store.asked subject options scopeId filters selection).map Record.id) := by
    rw [Query.result, Query.idCells, sort_rows_compile hstore hquery]
    exact texts_joinedRows hquery fun record hmem => (Store.mem_asked.mp hmem).1
  rw [Store.fetchIds, Statement.execute, Query.execute]
  simp only [bind_assoc, pure_bind, htexts]
  rfl

/-- **The ids on a page of a compiled query** are cut out of those that it selects. -/
theorem fetchIds_page_compile_eq (hstore : store.WellFormed) {query : Query}
    (hquery : subject.compile options scopeId filters selection = .ok query) (limit offset : Nat) :
    store.fetchIds (.select query .sqlite (.page limit offset)) = do
      query.check (.page limit offset)
      query.scan store.engine store.tables (.page limit offset)
      return (((store.asked subject options scopeId filters selection).map Record.id).drop
        (min offset maxBound)).take (min limit maxBound) := by
  have htexts : (query.result store.tables (.page limit offset)).texts =
      .ok ((((store.asked subject options scopeId filters selection).map Record.id).drop
        (min offset maxBound)).take (min limit maxBound)) := by
    simp only [Query.result, Projection.clamped, Query.idCells, sort_rows_compile hstore hquery,
      ← List.map_drop, ← List.map_take]
    refine texts_joinedRows hquery fun record hmem => ?_
    exact (Store.mem_asked.mp (List.mem_of_mem_drop (List.mem_of_mem_take hmem))).1
  rw [Store.fetchIds, Statement.execute, Query.execute]
  simp only [bind_assoc, pure_bind, htexts]
  rfl

/-- **The number that a compiled query counts** is that of the records that are asked for. -/
theorem count_compile_eq (hstore : store.WellFormed) {query : Query}
    (hquery : subject.compile options scopeId filters selection = .ok query) :
    store.count (.select query .sqlite .count) = do
      query.check .count
      query.scan store.engine store.tables .count
      return (store.asked subject options scopeId filters selection).length := by
  have hlength : (query.rows store.tables).length =
      (store.asked subject options scopeId filters selection).length := by
    have hsorted := congrArg List.length (sort_rows_compile hstore hquery)
    rwa [Query.sort, List.length_mergeSort, List.length_map] at hsorted
  have hnumber : (query.result store.tables .count).count =
      .ok (store.asked subject options scopeId filters selection).length := by
    simp only [Query.result, Projection.clamped, ResultSet.count, hlength]
    rw [if_neg (Int.not_lt.mpr (Int.natCast_nonneg _)), Int.toNat_natCast]
  rw [Store.count, Statement.execute, Query.execute]
  simp only [bind_assoc, pure_bind, hnumber]
  rfl

/-- What depends on the check of a compiled query and on the look for its rows is had, or the query
exceeds a limit. -/
theorem yields_compile {query : Query}
    (hquery : subject.compile options scopeId filters selection = .ok query) (engine : Engine)
    (tables : Tables) (projection : Projection) {α : Type} (value : α) :
    query.Yields projection (do
      query.check projection
      query.scan engine tables projection
      return value) value := by
  rcases query.check_cases projection with hcheck | ⟨error, hexceeds, hcheck⟩
  · rw [hcheck]
    rcases scan_compile_cases hquery engine tables projection with
      hscan | ⟨⟨_, hmem, hlong⟩, hscan⟩
    · exact .inl (by rw [hscan]; rfl)
    · exact .inr ⟨_, .pattern hmem hlong, by rw [hscan]; rfl⟩
  · exact .inr ⟨error, hexceeds, by rw [hcheck]; rfl⟩

/-- A compiled query selects ids exactly if its check passes and the look for its rows does not
fail, and then those of the records that are asked for. -/
theorem fetchIds_compile_eq_ok_iff (hstore : store.WellFormed) {query : Query}
    (hquery : subject.compile options scopeId filters selection = .ok query) {ids : List String} :
    store.fetchIds (.select query .sqlite .ids) = .ok ids ↔
      query.check .ids = .ok () ∧ query.scan store.engine store.tables .ids = .ok () ∧
        ids = (store.asked subject options scopeId filters selection).map Record.id := by
  rw [fetchIds_compile_eq hstore hquery]
  cases query.check .ids with
  | error e => exact ⟨nofun, nofun⟩
  | ok _ =>
    cases query.scan store.engine store.tables .ids with
    | error e => exact ⟨nofun, nofun⟩
    | ok _ =>
      constructor
      · rintro ⟨⟩
        exact ⟨rfl, rfl, rfl⟩
      · rintro ⟨-, -, rfl⟩
        rfl

/-- Where a query with a pattern that is too long can be looked for, no record is asked for. -/
theorem asked_eq_nil_of_scan (hstore : store.WellFormed) {query : Query}
    (hquery : subject.compile options scopeId filters selection = .ok query)
    (hlong : query.SearchesTooLong) {projection : Projection} (hsome : projection.isEmpty = false)
    (hscan : query.scan store.engine store.tables projection = .ok ()) :
    store.asked subject options scopeId filters selection = [] := by
  refine List.eq_nil_iff_forall_not_mem.mpr fun record hmem => ?_
  rw [scan_compile_of_asked hstore hquery hlong ⟨record, Store.mem_asked.mp hmem⟩ hsome] at hscan
  cases hscan

/-- **A query with a pattern that is too long selects no ids**, if it does not fail. -/
theorem eq_nil_of_searchesTooLong (hstore : store.WellFormed) {query : Query}
    (hquery : subject.compile options scopeId filters selection = .ok query)
    (hlong : query.SearchesTooLong) {projection : Projection} {ids : List String}
    (hids : store.fetchIds (.select query .sqlite projection) = .ok ids) : ids = [] := by
  cases projection with
  | ids =>
    obtain ⟨-, hscan, rfl⟩ := (fetchIds_compile_eq_ok_iff hstore hquery).mp hids
    rw [asked_eq_nil_of_scan hstore hquery hlong rfl hscan, List.map_nil]
  | page limit offset =>
    rw [fetchIds_page_compile_eq hstore hquery] at hids
    obtain ⟨_, -, hids⟩ := bind_eq_ok_iff.mp hids
    obtain ⟨_, hscan, hids⟩ := bind_eq_ok_iff.mp hids
    obtain rfl := Except.ok.inj hids
    by_cases hlimit : limit = 0
    · rw [hlimit, Nat.zero_min, List.take_zero]
    · have hsome : (Projection.page limit offset).isEmpty = false := beq_eq_false_iff_ne.mpr hlimit
      rw [asked_eq_nil_of_scan hstore hquery hlong hsome hscan, List.map_nil, List.drop_nil,
        List.take_nil]
  | count =>
    obtain ⟨result, hresult, htexts⟩ := bind_eq_ok_iff.mp hids
    obtain ⟨_, -, hresult⟩ := bind_eq_ok_iff.mp hresult
    obtain ⟨_, -, hresult⟩ := bind_eq_ok_iff.mp hresult
    obtain rfl := Except.ok.inj hresult
    cases htexts

/-- **Counting agrees with selecting**: where a compiled query selects ids, it counts them. Only
with a pattern that is too long counting can fail then. -/
theorem count_of_fetchIds (hstore : store.WellFormed) {query : Query}
    (hquery : subject.compile options scopeId filters selection = .ok query) {ids : List String}
    (hids : store.fetchIds (.select query .sqlite .ids) = .ok ids) :
    AgreeUnless query.SearchesTooLong (store.count (.select query .sqlite .count))
      (.ok ids.length) := by
  obtain ⟨hcheck, -, hasked⟩ := (fetchIds_compile_eq_ok_iff hstore hquery).mp hids
  have hcount : query.check .count = .ok () := by
    rw [Query.check_eq_ok_iff, Query.params_pieces_count]
    exact Query.check_eq_ok_iff.mp hcheck
  rw [count_compile_eq hstore hquery, hcount, hasked, List.length_map]
  exact scan_agree_ok hquery store.engine store.tables .count _

/-- A compiled query that passes the check and searches for no pattern that is too long selects
the ids of the records that are asked for. -/
theorem fetchIds_compile_of_check (hstore : store.WellFormed) {query : Query}
    (hquery : subject.compile options scopeId filters selection = .ok query)
    (hcheck : query.check .ids = .ok ()) (hshort : ¬query.SearchesTooLong) :
    store.fetchIds (.select query .sqlite .ids) =
      .ok ((store.asked subject options scopeId filters selection).map Record.id) := by
  rw [fetchIds_compile_eq hstore hquery, hcheck]
  exact (scan_agree_ok hquery store.engine store.tables .ids _).eq_of_not hshort

/-- The ids that a compiled query selects where the records that are asked for are in order
already. -/
theorem fetchIds_compile_of_pairwise (hstore : store.WellFormed) {query : Query}
    (hquery : subject.compile options scopeId filters selection = .ok query)
    (hcheck : query.check .ids = .ok ()) (hshort : ¬query.SearchesTooLong)
    (hsorted : ((store.records subject).filter
      (store.meets options scopeId filters selection)).Pairwise fun a b => a.precedes b = true) :
    store.fetchIds (.select query .sqlite .ids) = .ok (((store.records subject).filter
      (store.meets options scopeId filters selection)).map Record.id) := by
  rw [fetchIds_compile_of_check hstore hquery hcheck hshort, Store.asked_of_pairwise hsorted]

/-- Running a compiled query for ids gives the ids of the records that are asked for, in some
order, unless the query exceeds a limit. -/
theorem fetchIds_compile_cases (hstore : store.WellFormed) {query : Query}
    (hquery : subject.compile options scopeId filters selection = .ok query) :
    (∃ ids, store.fetchIds (.select query .sqlite .ids) = .ok ids ∧
        ids.Perm (((store.records subject).filter
          (store.meets options scopeId filters selection)).map Record.id)) ∨
      ∃ error, query.Exceeds .ids error ∧
        store.fetchIds (.select query .sqlite .ids) = .error error := by
  rw [fetchIds_compile_eq hstore hquery]
  refine (yields_compile hquery _ _ .ids _).imp_left fun hids => ⟨_, hids, ?_⟩
  exact (List.mergeSort_perm _ _).map Record.id

/-- **A compiled query that exceeds a limit fails** in every well-formed store in which some
record is asked for. -/
theorem fetchIds_compile_ne_ok (hstore : store.WellFormed) {query : Query}
    (hquery : subject.compile options scopeId filters selection = .ok query) {error : Error}
    (hexceeds : query.Exceeds .ids error)
    (hasked : ∃ record ∈ store.records subject,
      store.meets options scopeId filters selection record = true) (ids : List String) :
    store.fetchIds (.select query .sqlite .ids) ≠ .ok ids := by
  intro hids
  obtain ⟨hcheck, hscan, -⟩ := (fetchIds_compile_eq_ok_iff hstore hquery).mp hids
  have hlong : query.SearchesTooLong := by
    by_cases hpattern : error = .patternTooLong
    · subst hpattern
      cases hexceeds with
      | pattern hmem hlong => exact ⟨_, hmem, hlong⟩
    · exact absurd hcheck (Query.check_ne_ok hexceeds hpattern)
  rw [scan_compile_of_asked hstore hquery hlong hasked rfl] at hscan
  cases hscan

/-- **The result of a compiled query is what its filters mean.** In every reachable store it
consists of the ids of the records that the scope, the filters and the selection ask for, each
of them once; or the query fails, and then it exceeds a limit, which the error tells. -/
theorem fetchIds_compile (hstore : store.Reachable) {query : Query}
    (hquery : subject.compile options scopeId filters selection = .ok query) :
    (∃ ids, store.fetchIds (.select query .sqlite .ids) = .ok ids ∧ ids.Nodup ∧
        ∀ id, id ∈ ids ↔ ∃ record ∈ store.records subject,
          record.id = id ∧ store.meets options scopeId filters selection record = true) ∨
      ∃ error, query.Exceeds .ids error ∧
        store.fetchIds (.select query .sqlite .ids) = .error error := by
  rcases fetchIds_compile_cases hstore.wellFormed hquery with ⟨ids, hids, hperm⟩ | hfails
  · refine .inl ⟨ids, hids, ?_, fun id => ?_⟩
    · have hnodup := hstore.wellFormed.nodup_ids subject
      exact hperm.nodup_iff.mpr (hnodup.sublist (List.filter_sublist.map _))
    · rw [hperm.mem_iff, List.mem_map]
      constructor
      · rintro ⟨record, hmem, rfl⟩
        obtain ⟨hrecord, hmeets⟩ := List.mem_filter.mp hmem
        exact ⟨record, hrecord, rfl, hmeets⟩
      · rintro ⟨record, hrecord, rfl, hmeets⟩
        exact ⟨record, List.mem_filter.mpr ⟨hrecord, hmeets⟩, rfl⟩
  · exact .inr hfails

/-- A time at which calls are reported. -/
def newYear : Timestamp :=
  ⟨⟨2024, 1, 1, by decide, by decide⟩, 0, 0, 0, by decide, by decide, by decide⟩

/-- Two calls of one model and with one response text, of which the second has a tag. -/
def twoCalls : Store :=
  Store.empty.run <| [("a", NameMap.empty), ("b", ⟨[("env", some "prod")], by decide⟩)].map
    fun (id, tags) => .record "p"
      { id := id
        model := some "m"
        requestedAt := newYear
        response := some ⟨.null, some (.string "ok"), some 200, none⟩
        tags := tags }

/-- The two calls are a reachable store. -/
theorem reachable_twoCalls : twoCalls.Reachable := ⟨_, _, rfl⟩

/-- Filters on a column, a missing tag and a response, with a selection, on two calls: only the
call without the tag is asked for. -/
theorem fetchIds_twoCalls : ∃ query ids,
    loggedCalls.compile {} "p"
        [⟨"model", "=", some "m"⟩, ⟨"env", "!=", some "prod"⟩, ⟨"Response", "CONTAINS", some "o"⟩]
        (some ⟨false, ⟨["a", "b"], by decide⟩, .empty⟩) = .ok query ∧
      twoCalls.fetchIds (.select query .sqlite .ids) = .ok ids ∧ ids.Nodup ∧
      "a" ∈ ids ∧ "b" ∉ ids := by
  rcases fetchIds_compile reachable_twoCalls (rfl : loggedCalls.compile {} "p"
      [⟨"model", "=", some "m"⟩, ⟨"env", "!=", some "prod"⟩, ⟨"Response", "CONTAINS", some "o"⟩]
      (some ⟨false, ⟨["a", "b"], by decide⟩, .empty⟩) = .ok _)
    with ⟨ids, hids, hnodup, hmem⟩ | ⟨error, hexceeds, -⟩
  · refine ⟨_, ids, rfl, hids, hnodup, (hmem "a").mpr (by decide), fun hb => ?_⟩
    exact absurd ((hmem "b").mp hb) (by decide)
  · cases hexceeds with
    | params h => exact absurd h (by decide)
    | depth h => exact absurd h (by decide)
    | tables h => exact absurd h (by decide)
    | terms h => exact absurd h (by decide)
    | pattern hmem hlong =>
      exact absurd (⟨_, hmem, hlong⟩ : ∃ p ∈ _, Predicate.isTooLong p = true) (by decide)

end Subject

/-! ### Beyond the limits -/

open Subject

/-- Whether filters with a selection compile and ask for some call of a store, but their query
cannot be run. -/
def Store.Refuses (store : Store) (filters : List Filter) (selection : Option Selection) : Prop :=
  ∃ query, loggedCalls.compile {} "p" filters selection = .ok query ∧
    (∃ record ∈ store.records loggedCalls,
      store.meets {} "p" filters selection record = true) ∧
    ∀ ids, store.fetchIds (.select query .sqlite .ids) ≠ .ok ids

/-- A query that exceeds a limit is refused if it asks for one of the two calls. -/
theorem refuses_of_exceeds {filters : List Filter} {selection : Option Selection} {query : Query}
    {error : Error} (hquery : loggedCalls.compile {} "p" filters selection = .ok query)
    (hexceeds : query.Exceeds .ids error)
    (hasked : ∃ record ∈ twoCalls.records loggedCalls,
      twoCalls.meets {} "p" filters selection record = true) :
    twoCalls.Refuses filters selection :=
  ⟨query, hquery, hasked,
    fetchIds_compile_ne_ok reachable_twoCalls.wellFormed hquery hexceeds hasked⟩

/-- A text of one letter over and over. -/
def letters (count : Nat) : String := String.ofList (List.replicate count 'a')

/-- A text of one letter has one byte for each. -/
theorem utf8ByteSize_letters (count : Nat) : (letters count).utf8ByteSize = count := by
  induction count with
  | zero => rfl
  | succ count ih =>
    have hsplit : letters (count + 1) = String.ofList ['a'] ++ letters count := by
      rw [letters, letters, ← String.ofList_append]
      rfl
    have hletter : (String.ofList ['a']).utf8ByteSize = 1 := rfl
    rw [hsplit, String.utf8ByteSize_append, hletter, ih, Nat.add_comm]

/-- Of two texts of one letter the shorter one is the smaller one. -/
theorem letters_lt {i j : Nat} (h : i < j) : letters i < letters j := by
  change (String.ofList _).toList < (String.ofList _).toList
  rw [String.toList_ofList, String.toList_ofList]
  induction i generalizing j with
  | zero =>
    obtain ⟨k, rfl⟩ := Nat.exists_eq_add_of_lt h
    exact List.Lex.nil
  | succ i ih =>
    obtain ⟨k, rfl⟩ := Nat.exists_eq_add_of_lt h
    exact List.Lex.cons (ih (by omega : i < i + 1 + k))

/-- A number of ids, each of one letter over and over. -/
def letterIds (count : Nat) : NameSet where
  toList := (List.range count).map letters
  increasing := List.pairwise_map.mpr (List.pairwise_lt_range.imp letters_lt)

/-- There are as many of the ids as their number says. -/
theorem length_letterIds (count : Nat) : (letterIds count).toList.length = count :=
  (List.length_map letters).trans List.length_range

/-- The id with one letter is among them if there are two of them. -/
theorem contains_letterIds {count : Nat} (h : 1 < count) : (letterIds count).contains "a" = true :=
  List.contains_iff_mem.mpr (List.mem_map.mpr ⟨1, List.mem_range.mpr h, rfl⟩)

/-- A filter with a pattern that is too long compiles, to a query that passes the check. -/
theorem compile_long_pattern {value : String} (hlong : maxPatternBytes ≤ value.utf8ByteSize) :
    ∃ query, loggedCalls.compile {} "p" [⟨"user", "NOT_CONTAINS", some value⟩] none = .ok query ∧
      query.check .ids = .ok () ∧ query.SearchesTooLong := by
  have hspecified : Filter.specified? ⟨"user", "NOT_CONTAINS", some value⟩ = some value :=
    Filter.specified?_of_pos (Nat.lt_of_lt_of_le (by decide) hlong)
  have hadds : loggedCalls.Adds {} 0 ⟨"user", "NOT_CONTAINS", some value⟩
      (some (callTags.plan ⟨"lc", "id"⟩ 0 "user"
        (Comparator.notContains.predicate .active value))) :=
    .tag hspecified rfl rfl rfl rfl
  exact ⟨_, compile_eq_ok_iff.mpr ⟨_, .cons hadds .nil, rfl⟩, rfl, _,
    List.mem_cons_of_mem _ List.mem_cons_self, decide_eq_true (maxPatternBytes_lt_containing hlong)⟩

/-- The filter asks for every call of the project that does not have its tag. -/
theorem meets_long_pattern {store : Store} {call : LoggedCall} {value : String}
    (hlong : maxPatternBytes ≤ value.utf8ByteSize) (hproject : call.projectId = "p")
    (htag : store.tagValue? call.id "user" = none) :
    store.meets {} "p" [⟨"user", "NOT_CONTAINS", some value⟩] none (.call call) = true := by
  have hspecified : Filter.specified? ⟨"user", "NOT_CONTAINS", some value⟩ = some value :=
    Filter.specified?_of_pos (Nat.lt_of_lt_of_le (by decide) hlong)
  have hcomparator : Comparator.ofToken "NOT_CONTAINS" = .ok .notContains := rfl
  have htext : store.callText? call "user" = none := congrArg Option.join htag
  simp only [Store.meets, List.all_cons, Store.satisfies, hspecified, hcomparator, Store.admits,
    htext, Record.inScope, hproject]
  rfl

/-- A query with a pattern that is too long is refused. -/
theorem refuses_long_pattern {value : String} (hlong : maxPatternBytes ≤ value.utf8ByteSize) :
    twoCalls.Refuses [⟨"user", "NOT_CONTAINS", some value⟩] none := by
  obtain ⟨query, hquery, -, predicate, hmem, htoo⟩ := compile_long_pattern hlong
  exact refuses_of_exceeds hquery (.pattern hmem htoo)
    ⟨_, List.mem_cons_self, meets_long_pattern hlong rfl rfl⟩

/-- The conditions of a selection of some ids. -/
theorem predicates_selectedIds {ids : NameSet} (hids : ids.isEmpty = false) :
    (loggedCalls.assemble {} "p" (some ⟨false, ids, .empty⟩) []).predicates =
      [.eq (.column ⟨"lc", "projectId"⟩) (.text "p"),
        .isIn (.column ⟨"lc", "id"⟩) (Selection.boundIds ids),
        .eq (.column ⟨"lcmr", "statusCode"⟩) (.integer 200)] := by
  simp only [assemble, Selection.predicates, Selection.idPredicates, hids, Bool.false_eq_true,
    if_false]
  rfl

/-- A selection of some ids has a placeholder for each, one for the project and one for the
status. -/
theorem length_params_selectedIds {ids : NameSet} (hids : ids.isEmpty = false) :
    ((loggedCalls.assemble {} "p" (some ⟨false, ids, .empty⟩) []).pieces .ids).params.length =
      ids.toList.length + 2 := by
  have hlength : (Selection.boundIds ids).length = ids.toList.length := List.length_map _
  have hjoins : Fragment.params ((loggedCalls.assemble {} "p" (some ⟨false, ids, .empty⟩)
      []).joins.flatMap LeftJoin.pieces) = [] := rfl
  have heq (operand : Operand) (value : Scalar) :
      Fragment.params (Predicate.eq operand value).pieces = [value] := by
    cases operand <;> rfl
  simp only [Query.pieces, Query.body, Query.tail, Fragment.params, List.cons_append,
    Fragment.params_append, Fragment.params_conjunction, predicates_selectedIds hids, hjoins, heq,
    List.flatMap_cons, List.flatMap_nil, Predicate.params_isIn, List.length_append,
    List.length_cons, List.length_nil, hlength]
  omega

/-- A set that contains a name is not empty. -/
theorem isEmpty_of_contains {ids : NameSet} {name : String} (h : ids.contains name = true) :
    ids.isEmpty = false := by
  cases hids : ids.isEmpty with
  | false => rfl
  | true => rw [NameSet.contains_of_isEmpty hids] at h; cases h

/-- A selection of too many ids is refused. -/
theorem refuses_many_ids {ids : NameSet} (hmany : maxParams < ids.toList.length)
    (hmember : ids.contains "a" = true) : twoCalls.Refuses [] (some ⟨false, ids, .empty⟩) := by
  refine refuses_of_exceeds (compile_eq_ok_iff.mpr ⟨[], .nil, rfl⟩) (.params ?_) ?_
  · rw [length_params_selectedIds (isEmpty_of_contains hmember)]
    omega
  · refine ⟨_, List.mem_cons_self, ?_⟩
    simp only [Store.meets, Store.selects, Selection.asksFor, List.all_nil, Bool.false_eq_true,
      if_false]
    change (_ && true && (ids.contains "a" && _)) = true
    rw [hmember]
    rfl

set_option maxRecDepth 20000 in
/-- **There are limits**: on a store with two calls there are too many tag filters, too many
filters on one column, too long a pattern and too many selected ids. Each query compiles and
asks for a call, and cannot be run. -/
theorem refuses_beyond_limits : twoCalls.Reachable ∧
    twoCalls.Refuses (List.replicate 63 ⟨"user", "!=", some "x"⟩) none ∧
    twoCalls.Refuses (List.replicate 996 ⟨"model", "!=", some "x"⟩) none ∧
    twoCalls.Refuses [⟨"user", "NOT_CONTAINS", some (letters maxPatternBytes)⟩] none ∧
    twoCalls.Refuses [] (some ⟨false, letterIds (maxParams + 1), .empty⟩) := by
  refine ⟨reachable_twoCalls, ?_, ?_, ?_, ?_⟩
  · exact refuses_of_exceeds rfl (.tables (by decide)) (by decide)
  · exact refuses_of_exceeds rfl (.depth (by decide +kernel)) (by decide +kernel)
  · exact refuses_long_pattern (Nat.le_of_eq (utf8ByteSize_letters maxPatternBytes).symm)
  · have hlength := length_letterIds (maxParams + 1)
    exact refuses_many_ids (by omega) (contains_letterIds (by decide))

end LogFilter
