import LogFilter.Proofs.Complement

/-!
# Lists of Filters as Intersections

A list of filters asks for what all of its filters ask for. Where in the list a filter stands
decides the alias of its join and the numbers of its placeholders, and neither decides anything
about records: a filter can be applied at one position exactly if it can be at any other, and
each record is asked for or not, one by one. So two lists one after the other compile exactly if
each of them does, and ask for the records that both of them ask for, in the order of results.
What is asked for depends only on which filters there are, not on their order and not on how
often each is repeated.

The meaning is that of an intersection; what the database can run is another matter. Two lists
that can both be run may join more tables together than the database allows.

## Main definitions

* `Subject.Applies`: whether a filter can be applied.
* `Subject.Composes`: how the result of two lists of filters is composed of theirs.

## Main results

* `Subject.exists_compile_iff`: filters compile exactly if each of them can be applied.
* `Subject.askedIds_append`: what two lists ask for together.
* `Subject.composes_append`: both of these, for the queries that two lists compile to.
* `Subject.refuses_composition`: two lists that can be run, but not together.
-/

namespace LogFilter

open Sql

namespace Subject

variable {subject : Subject} {options : Options} {scopeId : String}
  {filters others : List Filter} {selection : Option Selection} {store : Store}

/-! ### Compiling one filter after the other -/

/-- Whether a filter **can be applied**, at the first position. -/
def Applies (subject : Subject) (options : Options) (filter : Filter) : Prop :=
  ∃ clause, subject.Adds options 0 filter clause

/-- A filter that can be added at one position can be added at every other. -/
theorem Adds.exists_at {position : Nat} {filter : Filter} {clause : Option Clause}
    (h : subject.Adds options position filter clause) (other : Nat) :
    ∃ clause, subject.Adds options other filter clause :=
  exists_adds_iff.mpr (exists_adds_iff.mp ⟨_, h⟩)

/-- Filters can be added one after the other exactly if each of them can be applied. -/
theorem exists_addsAll_iff {position : Nat} :
    (∃ clauses, subject.AddsAll options position filters clauses) ↔
      ∀ filter ∈ filters, subject.Applies options filter := by
  induction filters generalizing position with
  | nil => exact ⟨fun _ => nofun, fun _ => ⟨[], .nil⟩⟩
  | cons filter rest ih =>
    rw [List.forall_mem_cons, ← @ih (position + 1)]
    constructor
    · rintro ⟨_, hadds⟩
      cases hadds with
      | cons hfirst hrest => exact ⟨hfirst.exists_at 0, _, hrest⟩
    · rintro ⟨⟨_, hfirst⟩, _, hrest⟩
      obtain ⟨_, hadds⟩ := hfirst.exists_at position
      exact ⟨_, .cons hadds hrest⟩

/-- **Filters compile exactly if each of them can be applied.** -/
theorem exists_compile_iff :
    (∃ query, subject.compile options scopeId filters selection = .ok query) ↔
      ∀ filter ∈ filters, subject.Applies options filter := by
  rw [← @exists_addsAll_iff subject options filters 0]
  constructor
  · rintro ⟨query, hquery⟩
    obtain ⟨clauses, hclauses, -⟩ := compile_eq_ok_iff.mp hquery
    exact ⟨clauses, hclauses⟩
  · rintro ⟨clauses, hclauses⟩
    exact ⟨_, compile_eq_ok_iff.mpr ⟨clauses, hclauses, rfl⟩⟩

/-! ### What lists of filters ask for -/

/-- A record is asked for by two lists of filters together if each of them asks for it. -/
theorem meets_append (record : Record) :
    store.meets options scopeId (filters ++ others) selection record =
      (store.meets options scopeId others selection record &&
        store.meets options scopeId filters selection record) := by
  rw [Bool.eq_iff_iff]
  simp only [Store.meets, List.all_append, Bool.and_eq_true]
  constructor
  · rintro ⟨⟨hscope, hfilters, hothers⟩, hselects⟩
    exact ⟨⟨⟨hscope, hothers⟩, hselects⟩, ⟨hscope, hfilters⟩, hselects⟩
  · rintro ⟨⟨⟨hscope, hothers⟩, hselects⟩, ⟨-, hfilters⟩, -⟩
    exact ⟨⟨hscope, hfilters, hothers⟩, hselects⟩

/-- Filters ask for the same records in whatever order they stand and however often each of them
is repeated. -/
theorem askedIds_congr (h : ∀ filter, filter ∈ others ↔ filter ∈ filters) :
    store.askedIds subject options scopeId others selection =
      store.askedIds subject options scopeId filters selection := by
  have hmeets : store.meets options scopeId others selection =
      store.meets options scopeId filters selection := by
    funext record
    have hall : others.all (store.satisfies options record) =
        filters.all (store.satisfies options record) := by
      rw [Bool.eq_iff_iff, List.all_eq_true, List.all_eq_true]
      exact forall_congr' fun filter => by rw [h]
    rw [Store.meets, Store.meets, hall]
  rw [Store.askedIds, Store.askedIds, Store.asked, Store.asked, hmeets]

/-- The id of a record is among those that are asked for if the record is. -/
theorem id_mem_askedIds_iff (hstore : store.WellFormed) {record : Record}
    (hrecord : record ∈ store.records subject) :
    record.id ∈ store.askedIds subject options scopeId filters selection ↔
      store.meets options scopeId filters selection record = true := by
  rw [Store.askedIds, List.mem_map]
  constructor
  · rintro ⟨asked, hasked, hid⟩
    obtain ⟨hmem, hmeets⟩ := Store.mem_asked.mp hasked
    obtain rfl := List.inj_on_of_nodup_map (hstore.nodup_ids subject) hmem hrecord hid
    exact hmeets
  · exact fun hmeets => ⟨record, Store.mem_asked.mpr ⟨hrecord, hmeets⟩, rfl⟩

/-- **Two lists of filters ask for what both of them ask for**: for those ids of the one list
that the other one asks for, too, in the same order. -/
theorem askedIds_append (hstore : store.WellFormed) :
    store.askedIds subject options scopeId (filters ++ others) selection =
      (store.askedIds subject options scopeId filters selection).filter
        (· ∈ store.askedIds subject options scopeId others selection) := by
  have hboth : store.asked subject options scopeId (filters ++ others) selection =
      (store.asked subject options scopeId filters selection).filter
        (store.meets options scopeId others selection) :=
    asked_eq_filter hstore fun record _ => meets_append record
  have hothers : (store.asked subject options scopeId filters selection).filter
        (store.meets options scopeId others selection) =
      (store.asked subject options scopeId filters selection).filter
        (fun record => record.id ∈ store.askedIds subject options scopeId others selection) := by
    refine List.filter_congr fun record hmem => ?_
    rw [Bool.eq_iff_iff, decide_eq_true_eq]
    exact (id_mem_askedIds_iff hstore (Store.mem_asked.mp hmem).1).symm
  rw [Store.askedIds, hboth, hothers, Store.askedIds.eq_def store subject options scopeId filters,
    List.filter_map]
  rfl

/-! ### Results of two lists -/

/-- Whether the result of two lists of filters one after the other is **composed of theirs** as
their intersection. -/
structure Composes (store : Store) (subject : Subject) (options : Options) (scopeId : String)
    (filters others : List Filter) (selection : Option Selection) : Prop where
  /-- Together they compile exactly if each of them does. -/
  compiles : (∃ query, subject.compile options scopeId (filters ++ others) selection = .ok query) ↔
    (∃ query, subject.compile options scopeId filters selection = .ok query) ∧
      ∃ query, subject.compile options scopeId others selection = .ok query
  /-- Each of the three queries is answered with the ids that its filters ask for. -/
  answers : ∀ asked ∈ [filters ++ others, filters, others], ∀ query,
    subject.compile options scopeId asked selection = .ok query →
      store.Answers query (store.askedIds subject options scopeId asked selection)
  /-- Together the lists ask for those ids of the first that the second one asks for, too. -/
  intersects : store.askedIds subject options scopeId (filters ++ others) selection =
    (store.askedIds subject options scopeId filters selection).filter
      (· ∈ store.askedIds subject options scopeId others selection)
  /-- Any list of the same filters compiles as well, and is answered with the same ids. -/
  regroups : (∃ query,
      subject.compile options scopeId (filters ++ others) selection = .ok query) →
    ∀ regrouped : List Filter, (∀ filter, filter ∈ regrouped ↔ filter ∈ filters ++ others) →
      ∃ query, subject.compile options scopeId regrouped selection = .ok query ∧
        store.Answers query
          (store.askedIds subject options scopeId (filters ++ others) selection)

/-- **Lists of filters compose as intersections** in every reachable store, as far as the database
can run their queries: they compile one after the other exactly if each of them compiles, and then
ask for the ids of the one list that the other one asks for, in the same order, however the
filters are ordered, repeated and grouped. -/
theorem composes_append (hstore : store.Reachable) (subject : Subject) (options : Options)
    (scopeId : String) (filters others : List Filter) (selection : Option Selection) :
    Composes store subject options scopeId filters others selection where
  compiles := by
    simp only [exists_compile_iff]
    exact List.forall_mem_append
  answers := fun _ _ _ hquery => answers_compile hstore.wellFormed hquery
  intersects := askedIds_append hstore.wellFormed
  regroups := by
    intro hcompiles regrouped hsame
    obtain ⟨query, hquery⟩ := exists_compile_iff.mpr fun filter hmem =>
      exists_compile_iff.mp hcompiles filter ((hsame filter).mp hmem)
    refine ⟨query, hquery, ?_⟩
    rw [← askedIds_congr hsame]
    exact answers_compile hstore.wellFormed hquery

/-- One filter asks for both calls and another one for the second of them, and so do both of them
together, also in the other order. -/
theorem composes_twoCalls : ∃ query swapped,
    loggedCalls.compile {} "p" ([⟨"model", "=", some "m"⟩] ++ [⟨"env", "=", some "prod"⟩]) none =
        .ok query ∧
      loggedCalls.compile {} "p" [⟨"env", "=", some "prod"⟩, ⟨"model", "=", some "m"⟩] none =
        .ok swapped ∧
      twoCalls.Answers query ["b"] ∧ twoCalls.Answers swapped ["b"] ∧
      ["b"] = ["a", "b"].filter (· ∈ ["b"]) := by
  have hcomposes := composes_append reachable_twoCalls loggedCalls {} "p"
    [⟨"model", "=", some "m"⟩] [⟨"env", "=", some "prod"⟩] none
  have hboth : twoCalls.askedIds loggedCalls {} "p"
      ([⟨"model", "=", some "m"⟩] ++ [⟨"env", "=", some "prod"⟩]) none = ["b"] :=
    congrArg (List.map Record.id) (Store.asked_of_pairwise (by decide))
  have hfirst : twoCalls.askedIds loggedCalls {} "p" [⟨"model", "=", some "m"⟩] none =
      ["a", "b"] := congrArg (List.map Record.id) (Store.asked_of_pairwise (by decide))
  have hsecond : twoCalls.askedIds loggedCalls {} "p" [⟨"env", "=", some "prod"⟩] none = ["b"] :=
    congrArg (List.map Record.id) (Store.asked_of_pairwise (by decide))
  have hanswers := hcomposes.answers _ List.mem_cons_self _ rfl
  have hintersects := hcomposes.intersects
  obtain ⟨swapped, hswapped, hsame⟩ := hcomposes.regroups ⟨_, rfl⟩
    [⟨"env", "=", some "prod"⟩, ⟨"model", "=", some "m"⟩] fun filter => by
      simp only [List.mem_append, List.mem_cons, List.not_mem_nil, or_false]
      exact or_comm
  rw [hboth] at hanswers hintersects hsame
  rw [hfirst, hsecond] at hintersects
  exact ⟨_, swapped, rfl, hswapped, hanswers, hsame, hintersects⟩

set_option maxRecDepth 20000 in
/-- **There are lists that cannot be run together**: filters that join as many tags as the
database allows can be run, and so can a filter on another tag, but not both of them. -/
theorem refuses_composition : twoCalls.Reachable ∧
    (∃ query, loggedCalls.compile {} "p" sixtyTwoTags none = .ok query ∧
      twoCalls.fetchIds (.select query .sqlite .ids) = .ok ["a", "b"]) ∧
    (∃ query, loggedCalls.compile {} "p" [⟨"env", "=", some "prod"⟩] none = .ok query ∧
      twoCalls.fetchIds (.select query .sqlite .ids) = .ok ["b"]) ∧
    twoCalls.Refuses (sixtyTwoTags ++ [⟨"env", "=", some "prod"⟩]) none := by
  refine ⟨reachable_twoCalls, ⟨_, rfl, ?_⟩, ⟨_, rfl, ?_⟩, ?_⟩
  · exact fetchIds_compile_of_pairwise reachable_twoCalls.wellFormed
      (rfl : loggedCalls.compile {} "p" sixtyTwoTags none = .ok _)
      (Query.check_eq_ok_iff.mpr (by decide)) (by decide) (by decide)
  · exact fetchIds_compile_of_pairwise reachable_twoCalls.wellFormed
      (rfl : loggedCalls.compile {} "p" [⟨"env", "=", some "prod"⟩] none = .ok _) rfl (by decide)
      (by decide)
  · exact refuses_of_exceeds rfl (.tables (by decide)) (by decide)

end Subject

end LogFilter
