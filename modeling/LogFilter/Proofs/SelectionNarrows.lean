import LogFilter.Proofs.Intersection
import LogFilter.Proofs.QueryShape

/-!
# What a Selection Leaves

A selection is laid over what the filters ask for and never adds to it: of these ids those are
left that the selection asks for, in the same order, and where records have a status only those
of a success. Its default decides which of its two sets of ids governs, and the other one leaves
no trace in the query. An empty set of exceptions excepts nothing, but from an empty set of
selected ids nothing is selected.

A selection is one or two conditions more, so a query that can be run without one may exceed a
limit with it.

## Main definitions

* `Store.succeeds`: whether the record with an id has the status of a success.
* `Subject.Narrows`: what a selection leaves of a result.

## Main results

* `Selection.predicates_congr`: only the default and the governing ids of a selection matter.
* `Subject.askedIds_selection`: the ids that a selection leaves.
* `Subject.narrows`: a selection narrows every result.
* `Subject.refuses_selection`: a result that cannot be narrowed.
-/

namespace LogFilter

open Sql

/-- Whether the record with an id **has the status of a success**, where records have one: a call
without a response has none. -/
def Store.succeeds (store : Store) (subject : Subject) (status : Int) (id : String) : Bool :=
  match subject with
  | .loggedCalls => (store.response? id).bind ModelResponse.statusCode == some status
  | .datasetEntries => true

/-- Whether a selection **keeps the record with an id**: it asks for the id, and the record is a
success. -/
def Store.keeps (store : Store) (subject : Subject) (options : Options) (selection : Selection)
    (id : String) : Bool :=
  selection.asksFor id && store.succeeds subject options.successStatus id

namespace Selection

/-- **Only the default and the governing ids** of a selection appear in its conditions. -/
theorem predicates_congr {a b : Selection} (hdefault : a.defaultToSelected = b.defaultToSelected)
    (hgoverning : a.governing = b.governing) : a.predicates = b.predicates := by
  funext id status successStatus
  have hids : a.idPredicates id = b.idPredicates id := by
    cases hselected : b.defaultToSelected with
    | true =>
      simp only [governing, hdefault, hselected, if_true] at hgoverning
      simp only [idPredicates, hdefault, hselected, if_true, hgoverning]
    | false =>
      simp only [governing, hdefault, hselected, Bool.false_eq_true, if_false] at hgoverning
      simp only [idPredicates, hdefault, hselected, Bool.false_eq_true, if_false, hgoverning]
  rw [predicates, predicates, hids]

/-- A selection from no ids asks for none. -/
theorem asksFor_of_isEmpty {selection : Selection} (hdefault : selection.defaultToSelected = false)
    (hempty : selection.selectedIds.isEmpty = true) (id : String) :
    selection.asksFor id = false := by
  rw [asksFor, hdefault, if_neg Bool.false_ne_true, NameSet.contains_of_isEmpty hempty]

end Selection

namespace Subject

variable {subject : Subject} {options : Options} {scopeId : String} {filters : List Filter}
  {store : Store}

/-- A record is selected if its id is kept. -/
theorem selects_eq_keeps {record : Record} (hrecord : record ∈ store.records subject)
    (selection : Selection) :
    store.selects options record (some selection) =
      store.keeps subject options selection record.id := by
  cases subject with
  | loggedCalls =>
    obtain ⟨call, -, rfl⟩ := List.mem_map.mp hrecord
    rfl
  | datasetEntries =>
    obtain ⟨entry, -, rfl⟩ := List.mem_map.mp hrecord
    rfl

/-- **A selection leaves the ids that it keeps** of those that are asked for without it, in the
same order. -/
theorem askedIds_selection (hstore : store.WellFormed) (selection : Selection) :
    store.askedIds subject options scopeId filters (some selection) =
      (store.askedIds subject options scopeId filters none).filter
        (store.keeps subject options selection) := by
  have hasked : store.asked subject options scopeId filters (some selection) =
      (store.asked subject options scopeId filters none).filter fun record =>
        store.keeps subject options selection record.id := by
    refine asked_eq_filter hstore fun record hrecord => ?_
    rw [Store.meets, selects_eq_keeps hrecord, Store.meets, Store.selects, Bool.and_true,
      Bool.and_comm]
  rw [Store.askedIds, hasked, Store.askedIds, List.filter_map]
  rfl

/-- Whether **a selection narrows** the results of filters. -/
structure Narrows (store : Store) (subject : Subject) (options : Options) (scopeId : String)
    (filters : List Filter) (selection : Selection) : Prop where
  /-- Filters compile with the selection exactly if they compile without it. -/
  compiles :
    (∃ query, subject.compile options scopeId filters (some selection) = .ok query) ↔
      ∃ query, subject.compile options scopeId filters none = .ok query
  /-- Without the selection the query is answered with the ids that the filters ask for. -/
  whole : ∀ query, subject.compile options scopeId filters none = .ok query →
    store.Answers query (store.askedIds subject options scopeId filters none)
  /-- With it the query is answered with those of them that the selection keeps. -/
  part : ∀ query, subject.compile options scopeId filters (some selection) = .ok query →
    store.Answers query ((store.askedIds subject options scopeId filters none).filter
      (store.keeps subject options selection))
  /-- A selection from no ids leaves nothing. -/
  nothing : selection.defaultToSelected = false → selection.selectedIds.isEmpty = true →
    (store.askedIds subject options scopeId filters none).filter
      (store.keeps subject options selection) = []
  /-- The ids that do not govern the selection can be any others. -/
  governed : ∀ other : Selection, other.defaultToSelected = selection.defaultToSelected →
    other.governing = selection.governing →
    subject.compile options scopeId filters (some other) =
      subject.compile options scopeId filters (some selection)

/-- **A selection narrows every result and never widens one**: in every reachable store, as far
as the queries can be run, the result with it is the result without it, reduced in place to the
ids that the selection keeps. -/
theorem narrows (hstore : store.Reachable) (subject : Subject) (options : Options)
    (scopeId : String) (filters : List Filter) (selection : Selection) :
    Narrows store subject options scopeId filters selection where
  compiles := exists_compile_iff.trans exists_compile_iff.symm
  whole := fun _ hquery => answers_compile hstore.wellFormed hquery
  part := by
    intro query hquery
    rw [← askedIds_selection hstore.wellFormed]
    exact answers_compile hstore.wellFormed hquery
  nothing := by
    intro hdefault hempty
    refine List.filter_eq_nil_iff.mpr fun id _ hkeeps => ?_
    rw [Store.keeps, selection.asksFor_of_isEmpty hdefault hempty, Bool.false_and] at hkeeps
    cases hkeeps
  governed := by
    intro other hdefault hgoverning
    simp only [compile, assemble, Selection.predicates_congr hdefault hgoverning]

/-- Of the two calls a selection of the second one leaves that. -/
theorem narrows_twoCalls : ∃ query,
    loggedCalls.compile {} "p" [⟨"model", "=", some "m"⟩]
        (some ⟨false, ⟨["b", "c"], by decide⟩, .empty⟩) = .ok query ∧
      twoCalls.Answers query ["b"] := by
  have hnarrows := narrows reachable_twoCalls loggedCalls {} "p" [⟨"model", "=", some "m"⟩]
    ⟨false, ⟨["b", "c"], by decide⟩, .empty⟩
  have hwhole : twoCalls.askedIds loggedCalls {} "p" [⟨"model", "=", some "m"⟩] none = ["a", "b"] :=
    congrArg (List.map Record.id) (Store.asked_of_pairwise (by decide))
  have hpart := hnarrows.part _ rfl
  rw [hwhole] at hpart
  exact ⟨_, rfl, hpart⟩

/-- Filters on a column that nest as deeply as the database allows. -/
def deepestFilters : List Filter := List.replicate 995 ⟨"model", "!=", some "x"⟩

set_option maxRecDepth 20000 in
/-- **There are results that cannot be narrowed**: where filters nest as deeply as the database
allows, both calls are found without a selection, and with one that leaves out the second call
the query cannot be run. -/
theorem refuses_selection : twoCalls.Reachable ∧
    (∃ query, loggedCalls.compile {} "p" deepestFilters none = .ok query ∧
      twoCalls.fetchIds (.select query .sqlite .ids) = .ok ["a", "b"]) ∧
    twoCalls.Refuses deepestFilters (some ⟨true, .empty, ⟨["b"], by decide⟩⟩) := by
  refine ⟨reachable_twoCalls, ⟨_, rfl, ?_⟩, ?_⟩
  · exact fetchIds_compile_of_pairwise reachable_twoCalls.wellFormed
      (rfl : loggedCalls.compile {} "p" deepestFilters none = .ok _)
      (Query.check_eq_ok_iff.mpr (by decide +kernel)) (by decide +kernel) (by decide +kernel)
  · exact refuses_of_exceeds rfl (.depth (by decide +kernel)) (by decide +kernel)

end Subject

end LogFilter
