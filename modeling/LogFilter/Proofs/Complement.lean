import LogFilter.Proofs.QueryMeaning

/-!
# Comparators and Their Opposites

Every comparator has an opposite, which admits exactly the texts that the comparator does not
admit; an absent text is one of those that only the negative comparators admit. So a filter
parts the records that the filters before it ask for in two, those that satisfy it and those
that satisfy its opposite, and the results of the two queries part the result without it.

This is about what is asked for, and so it holds of every query that can be run. With one filter
more than the other query, or with the deeper condition of a negative comparator, a query may
exceed a limit that the other one keeps.

## Main definitions

* `Comparator.opposite`: the comparator that admits what another one does not.
* `PartedInto`: a list of ids of which each is in one of two others.
* `Store.Answers`: whether a store answers a query with some ids, as far as it can be run.

## Main results

* `Comparator.admits_opposite`: a comparator or its opposite admits a text, and not both.
* `Subject.AddsAll.append_iff`: filters add what the first ones and the others add.
* `Subject.partedInto_opposite`: a filter and its opposite part every result.
-/

namespace LogFilter

open Sql

/-! ### Opposite comparators -/

namespace Comparator

/-- The **opposite** of a comparator. -/
def opposite : Comparator → Comparator
  | equals => notEquals
  | notEquals => equals
  | contains => notContains
  | notContains => contains

/-- The token of a comparator stands for it. -/
theorem ofToken_token (comparator : Comparator) : ofToken comparator.token = .ok comparator :=
  ofToken_eq_ok_iff.mpr rfl

/-- **A comparator admits a text, absent or not, exactly if its opposite does not.** -/
theorem admits_opposite (comparator : Comparator) (wildcards : Wildcards) (value : String)
    (stored : Option String) :
    comparator.opposite.admits wildcards value stored =
      !comparator.admits wildcards value stored := by
  cases comparator <;> simp only [opposite, admits, bne, Bool.not_not]

end Comparator

/-- A filter that is made with a value has it, unless that is empty. -/
theorem Filter.specified?_make {value : String} (hvalue : value ≠ "") (field : String)
    (comparator : Comparator) : (make field comparator value).specified? = some value := by
  refine specified?_of_pos (Nat.pos_of_ne_zero fun hempty => hvalue ?_)
  exact String.utf8ByteSize_eq_zero_iff.mp hempty

namespace Store

variable {store : Store} {subject : Subject} {options : Options} {record : Record}

/-- **A record satisfies a filter exactly if it does not satisfy its opposite.** Of a dataset
entry this is so for the fields that it has. -/
theorem satisfies_opposite (hrecord : record ∈ store.records subject) {field value : String}
    (hvalue : value ≠ "") (hfield : subject = .datasetEntries → field = "Input" ∨ field = "Output")
    (comparator : Comparator) :
    store.satisfies options record (Filter.make field comparator.opposite value) =
      !store.satisfies options record (Filter.make field comparator value) := by
  have hopposite : Comparator.ofToken (Filter.make field comparator.opposite value).comparator =
      .ok comparator.opposite := comparator.opposite.ofToken_token
  have hcomparator : Comparator.ofToken (Filter.make field comparator value).comparator =
      .ok comparator := comparator.ofToken_token
  simp only [satisfies, Filter.specified?_make hvalue, hopposite, hcomparator]
  cases subject with
  | loggedCalls =>
    obtain ⟨call, -, rfl⟩ := List.mem_map.mp hrecord
    exact comparator.admits_opposite _ value _
  | datasetEntries =>
    obtain ⟨entry, -, rfl⟩ := List.mem_map.mp hrecord
    rcases hfield rfl with rfl | rfl <;> exact comparator.admits_opposite _ value _

/-- With one filter more a record is asked for if it was before and satisfies the filter. -/
theorem meets_append_singleton (scopeId : String) (filters : List Filter) (filter : Filter)
    (selection : Option Selection) (record : Record) :
    store.meets options scopeId (filters ++ [filter]) selection record =
      (store.meets options scopeId filters selection record &&
        store.satisfies options record filter) := by
  simp only [meets, List.all_append, List.all_cons, List.all_nil, Bool.and_true]
  ac_rfl

/-- Of the records that are asked for, some satisfy one more filter and the others do not. -/
theorem asked_perm_append (store : Store) (options : Options) (scopeId : String)
    (filters : List Filter) (selection : Option Selection) {filter other : Filter}
    (hother : ∀ record ∈ store.records subject,
      store.satisfies options record other = !store.satisfies options record filter) :
    (store.asked subject options scopeId filters selection).Perm
      (store.asked subject options scopeId (filters ++ [filter]) selection ++
        store.asked subject options scopeId (filters ++ [other]) selection) := by
  have hsorted (more : List Filter) := List.mergeSort_perm ((store.records subject).filter
    (store.meets options scopeId more selection)) Record.precedes
  have hwith : (store.records subject).filter
        (store.meets options scopeId (filters ++ [filter]) selection) =
      ((store.records subject).filter (store.meets options scopeId filters selection)).filter
        fun record => store.satisfies options record filter := by
    rw [List.filter_filter]
    refine List.filter_congr fun record _ => ?_
    rw [meets_append_singleton, Bool.and_comm]
  have hwithout : (store.records subject).filter
        (store.meets options scopeId (filters ++ [other]) selection) =
      ((store.records subject).filter (store.meets options scopeId filters selection)).filter
        fun record => !store.satisfies options record filter := by
    rw [List.filter_filter]
    refine List.filter_congr fun record hmem => ?_
    rw [meets_append_singleton, Bool.and_comm, hother record hmem]
  have hparts := List.filter_append_perm (fun record => store.satisfies options record filter)
    ((store.records subject).filter (store.meets options scopeId filters selection))
  rw [← hwith, ← hwithout] at hparts
  exact (hsorted filters).trans (hparts.symm.trans ((hsorted _).symm.append (hsorted _).symm))

end Store

/-! ### One filter more -/

namespace Subject

variable {subject : Subject} {options : Options}

/-- **Filters one after the other add what the first ones and the others add**, these at the
positions that follow. -/
theorem AddsAll.append_iff {position : Nat} {filters rest : List Filter}
    {clauses : List Clause} :
    subject.AddsAll options position (filters ++ rest) clauses ↔
      ∃ front back, subject.AddsAll options position filters front ∧
        subject.AddsAll options (position + filters.length) rest back ∧
        clauses = front ++ back := by
  induction filters generalizing position clauses with
  | nil =>
    constructor
    · exact fun h => ⟨[], clauses, .nil, h, rfl⟩
    · rintro ⟨_, back, hnil, hback, rfl⟩
      cases hnil
      exact hback
  | cons filter filters ih =>
    have hposition : position + (filter :: filters).length = position + 1 + filters.length := by
      rw [List.length_cons]
      omega
    rw [hposition]
    constructor
    · intro h
      cases h with
      | cons hfirst hothers =>
        obtain ⟨front, back, hfront, hback, rfl⟩ := ih.mp hothers
        exact ⟨_, back, .cons hfirst hfront, hback, (List.append_assoc _ _ _).symm⟩
    · rintro ⟨_, back, hfront, hback, rfl⟩
      cases hfront with
      | cons hfirst hfront =>
        rw [List.append_assoc]
        exact .cons hfirst (ih.mpr ⟨_, back, hfront, hback, rfl⟩)

/-- Whether a filter can be added does not depend on its comparator. -/
theorem Adds.of_comparator {position : Nat} {field value : String} {comparator : Comparator}
    {clause : Option Clause}
    (h : subject.Adds options position (Filter.make field comparator value) clause)
    (other : Comparator) :
    ∃ clause, subject.Adds options position (Filter.make field other value) clause :=
  exists_adds_iff.mpr fun specified hvalue =>
    ⟨⟨other, other.ofToken_token⟩, (exists_adds_iff.mp ⟨_, h⟩ specified hvalue).2⟩

/-- If filters compile with a filter of one comparator at their end, then they do **without it and
with every other comparator in its place**. -/
theorem compile_of_compile_append {scopeId field value : String} {filters : List Filter}
    {selection : Option Selection} {comparator : Comparator} {query : Query}
    (hquery : subject.compile options scopeId (filters ++ [Filter.make field comparator value])
      selection = .ok query) :
    (∃ query, subject.compile options scopeId filters selection = .ok query) ∧
      ∀ other, ∃ query, subject.compile options scopeId
        (filters ++ [Filter.make field other value]) selection = .ok query := by
  obtain ⟨clauses, hclauses, -⟩ := compile_eq_ok_iff.mp hquery
  obtain ⟨front, back, hfront, hback, -⟩ := AddsAll.append_iff.mp hclauses
  refine ⟨⟨_, compile_eq_ok_iff.mpr ⟨front, hfront, rfl⟩⟩, fun other => ?_⟩
  cases hback with
  | cons hlast _ =>
    obtain ⟨clause, hclause⟩ := hlast.of_comparator other
    exact ⟨_, compile_eq_ok_iff.mpr
      ⟨_, AddsAll.append_iff.mpr ⟨front, _, hfront, .cons hclause .nil, rfl⟩, rfl⟩⟩

end Subject

/-! ### Results -/

/-- The **ids that are asked for**, in the order of results. -/
def Store.askedIds (store : Store) (subject : Subject) (options : Options) (scopeId : String)
    (filters : List Filter) (selection : Option Selection) : List String :=
  (store.asked subject options scopeId filters selection).map Record.id

/-- Whether a store **answers a query with some ids**: it selects these and counts them, and it
fails only where the query exceeds a limit, which the error tells. -/
structure Store.Answers (store : Store) (query : Query) (ids : List String) : Prop where
  selects : query.Yields .ids (store.fetchIds (.select query .sqlite .ids)) ids
  counts : query.Yields .count (store.count (.select query .sqlite .count)) ids.length

/-- Whether a list of ids is **parted into** two others: each of its ids is in exactly one of
them, they have no other ids, and together they are as long. -/
structure PartedInto (whole front back : List String) : Prop where
  one : ∀ id ∈ whole, id ∈ front ∧ id ∉ back ∨ id ∉ front ∧ id ∈ back
  only : ∀ id, id ∈ front ∨ id ∈ back → id ∈ whole
  length : front.length + back.length = whole.length

/-- A list of distinct ids is parted into two lists that it consists of. -/
theorem partedInto_of_perm {whole front back : List String} (hnodup : whole.Nodup)
    (hperm : whole.Perm (front ++ back)) : PartedInto whole front back := by
  obtain ⟨-, -, hdisjoint⟩ := List.nodup_append'.mp (hperm.nodup_iff.mp hnodup)
  refine ⟨fun id hmem => ?_, fun id hpart => ?_, ?_⟩
  · rcases List.mem_append.mp (hperm.mem_iff.mp hmem) with hfront | hback
    · exact .inl ⟨hfront, fun hback => hdisjoint hfront hback⟩
    · exact .inr ⟨fun hfront => hdisjoint hfront hback, hback⟩
  · exact hperm.mem_iff.mpr (List.mem_append.mpr hpart)
  · rw [hperm.length_eq, List.length_append]

namespace Subject

variable {subject : Subject} {options : Options} {scopeId : String} {filters : List Filter}
  {selection : Option Selection} {store : Store}

/-- A store answers a compiled query with the ids that are asked for. -/
theorem answers_compile (hstore : store.WellFormed) {query : Query}
    (hquery : subject.compile options scopeId filters selection = .ok query) :
    store.Answers query (store.askedIds subject options scopeId filters selection) := by
  constructor
  · rw [fetchIds_compile_eq hstore hquery]
    exact yields_compile hquery _ _ .ids _
  · rw [count_compile_eq hstore hquery, Store.askedIds, List.length_map]
    exact yields_compile hquery _ _ .count _

/-- **A filter and its opposite part every result.** If filters compile with one more filter at
their end, then they do without it and with its opposite in its place. In every reachable store
the three queries are answered, as far as they can be run, with the ids that are asked for, and
those without the filter are parted into those with it and those with its opposite. -/
theorem partedInto_opposite (hstore : store.Reachable) {field value : String}
    {comparator : Comparator} (hvalue : value ≠ "")
    (hfield : subject = .datasetEntries → field = "Input" ∨ field = "Output") {positive : Query}
    (hpositive : subject.compile options scopeId
      (filters ++ [Filter.make field comparator value]) selection = .ok positive) :
    ∃ query negative,
      subject.compile options scopeId filters selection = .ok query ∧
      subject.compile options scopeId
        (filters ++ [Filter.make field comparator.opposite value]) selection = .ok negative ∧
      store.Answers query (store.askedIds subject options scopeId filters selection) ∧
      store.Answers positive (store.askedIds subject options scopeId
        (filters ++ [Filter.make field comparator value]) selection) ∧
      store.Answers negative (store.askedIds subject options scopeId
        (filters ++ [Filter.make field comparator.opposite value]) selection) ∧
      PartedInto (store.askedIds subject options scopeId filters selection)
        (store.askedIds subject options scopeId
          (filters ++ [Filter.make field comparator value]) selection)
        (store.askedIds subject options scopeId
          (filters ++ [Filter.make field comparator.opposite value]) selection) := by
  obtain ⟨⟨query, hquery⟩, hothers⟩ := compile_of_compile_append hpositive
  obtain ⟨negative, hnegative⟩ := hothers comparator.opposite
  refine ⟨query, negative, hquery, hnegative, answers_compile hstore.wellFormed hquery,
    answers_compile hstore.wellFormed hpositive, answers_compile hstore.wellFormed hnegative, ?_⟩
  refine partedInto_of_perm (nodup_map_id_asked hstore.wellFormed) ?_
  have hperm := store.asked_perm_append options scopeId filters selection fun _ hrecord =>
    Store.satisfies_opposite hrecord hvalue hfield comparator
  exact (hperm.map Record.id).trans (List.Perm.of_eq List.map_append)

/-- Two calls are parted by a tag that only one of them has. -/
theorem partedInto_twoCalls : ∃ query negative,
    loggedCalls.compile {} "p" [⟨"model", "=", some "m"⟩] none = .ok query ∧
      loggedCalls.compile {} "p" [⟨"model", "=", some "m"⟩, ⟨"env", "!=", some "prod"⟩] none =
        .ok negative ∧
      twoCalls.Answers query ["a", "b"] ∧ twoCalls.Answers negative ["a"] ∧
      PartedInto ["a", "b"] ["b"] ["a"] := by
  obtain ⟨query, negative, hquery, hnegative, hwhole, -, hback, hparted⟩ :=
    @partedInto_opposite loggedCalls {} "p" [⟨"model", "=", some "m"⟩] none twoCalls
      reachable_twoCalls "env" "prod" .equals (by decide) nofun _ rfl
  have hwholeIds : twoCalls.askedIds loggedCalls {} "p" [⟨"model", "=", some "m"⟩] none =
      ["a", "b"] := congrArg (List.map Record.id) (Store.asked_of_pairwise (by decide))
  have hfrontIds : twoCalls.askedIds loggedCalls {} "p"
      ([⟨"model", "=", some "m"⟩] ++ [Filter.make "env" .equals "prod"]) none = ["b"] :=
    congrArg (List.map Record.id) (Store.asked_of_pairwise (by decide))
  have hbackIds : twoCalls.askedIds loggedCalls {} "p"
      ([⟨"model", "=", some "m"⟩] ++ [Filter.make "env" Comparator.equals.opposite "prod"]) none =
        ["a"] := congrArg (List.map Record.id) (Store.asked_of_pairwise (by decide))
  rw [hwholeIds] at hwhole
  rw [hbackIds] at hback
  rw [hwholeIds, hfrontIds, hbackIds] at hparted
  exact ⟨query, negative, hquery, hnegative, hwhole, hback, hparted⟩

/-- Filters on tags that leave room for no other one. -/
def sixtyTwoTags : List Filter := List.replicate 62 ⟨"user", "!=", some "x"⟩

set_option maxRecDepth 20000 in
/-- **There are results that cannot be parted**: where filters join as many tags as the database
allows, neither one more filter on a tag nor its opposite can be applied to the two calls. -/
theorem refuses_one_filter_more : twoCalls.Reachable ∧
    (∃ query, loggedCalls.compile {} "p" sixtyTwoTags none = .ok query ∧
      twoCalls.fetchIds (.select query .sqlite .ids) = .ok ["a", "b"]) ∧
    twoCalls.Refuses (sixtyTwoTags ++ [Filter.make "env" .equals "prod"]) none ∧
    twoCalls.Refuses (sixtyTwoTags ++ [Filter.make "env" .notEquals "prod"]) none := by
  refine ⟨reachable_twoCalls, ⟨_, rfl, ?_⟩, ?_, ?_⟩
  · exact fetchIds_compile_of_pairwise reachable_twoCalls.wellFormed
      (rfl : loggedCalls.compile {} "p" sixtyTwoTags none = .ok _)
      (Query.check_eq_ok_iff.mpr (by decide)) (by decide) (by decide)
  · exact refuses_of_exceeds rfl (.tables (by decide)) (by decide)
  · exact refuses_of_exceeds rfl (.tables (by decide)) (by decide)

end Subject

end LogFilter
