import LogFilter.Compile

/-!
# Successful Compilations

A compilation is a chain of checks, and everything that is proved about compiled queries
starts from a success. This module turns the chain into relations whose rules are the ways to
succeed: what one filter adds (`Subject.Adds`) and what a list of filters adds
(`Subject.AddsAll`). A filter adds nothing if it has no value, a condition on a column if it
names a known field, and a joined tag with a condition on it if it names a tag; where there
are no tags, a filter that would name one is passed over.

## Main results

* `Comparator.ofToken_eq_ok_iff`, `Comparator.ofToken_eq_error_iff`: what a token stands for.
* `Subject.clause?_eq_ok_iff`, `Subject.clausesFrom_eq_ok_iff`: the relations are the
  successes of the compiler.
* `Subject.exists_adds_iff`: which filters can be added.
* `Subject.compile_eq_ok_iff`: a compilation succeeds with the query of its clauses.
-/

namespace LogFilter

/-! ### Tokens and names of fields -/

namespace Comparator

variable {token : String} {comparator : Comparator}

/-- Every comparator is among all of them. -/
theorem mem_all (comparator : Comparator) : comparator ∈ all := by
  cases comparator <;> decide

/-- No two comparators have one token. -/
theorem token_inj {other : Comparator} (h : comparator.token = other.token) :
    comparator = other := by
  cases comparator <;> cases other <;> first | rfl | exact absurd h (by decide)

/-- A token stands for the comparator whose token it is. -/
theorem ofToken_eq_ok_iff : ofToken token = .ok comparator ↔ comparator.token = token := by
  rw [ofToken]
  cases hfind : all.find? fun other => other.token == token with
  | none =>
    refine ⟨nofun, fun h => ?_⟩
    exact absurd (beq_iff_eq.mpr h) (List.find?_eq_none.mp hfind comparator comparator.mem_all)
  | some found =>
    have hfound : found.token = token := by simpa using List.find?_some hfind
    rw [Except.ok.injEq]
    exact ⟨fun h => h ▸ hfound, fun h => token_inj (hfound.trans h.symm)⟩

/-- A token that is that of no comparator is unknown. -/
theorem ofToken_eq_error_iff {e : Error} : ofToken token = .error e ↔
    (∀ comparator : Comparator, comparator.token ≠ token) ∧ e = .unknownComparator token := by
  have hunknown {e : Error} (h : ofToken token = .error e) : e = .unknownComparator token := by
    rw [ofToken] at h
    split at h <;> cases h
    rfl
  constructor
  · intro h
    refine ⟨fun comparator htoken => ?_, hunknown h⟩
    rw [ofToken_eq_ok_iff.mpr htoken] at h
    cases h
  · rintro ⟨hnone, rfl⟩
    cases h : ofToken token with
    | ok comparator => exact absurd (ofToken_eq_ok_iff.mp h) (hnone comparator)
    | error e => rw [hunknown h]

end Comparator

namespace Subject

open Sql

/-- A known field is found by its name. -/
theorem field?_eq_some {subject : Subject} {name : String} {field : KnownField}
    (h : subject.field? name = some field) : field ∈ subject.fields ∧ field.name = name :=
  ⟨List.mem_of_find?_eq_some h, by simpa using List.find?_some h⟩

/-- A name of no known field is none of their names. -/
theorem field?_eq_none_iff {subject : Subject} {name : String} :
    subject.field? name = none ↔ ∀ field ∈ subject.fields, field.name ≠ name := by
  rw [field?, List.find?_eq_none]
  exact forall₂_congr fun field _ => not_congr beq_iff_eq

/-! ### What filters add -/

/-- What a filter at a position **adds** to a query. -/
inductive Adds (subject : Subject) (options : Options) (position : Nat) (filter : Filter) :
    Option Clause → Prop
  /-- A filter without a value adds nothing. -/
  | nothing : filter.specified? = none → Adds subject options position filter none
  /-- A filter on a known field adds a condition on its column. -/
  | column {value : String} {comparator : Comparator} {field : KnownField} :
      filter.specified? = some value → Comparator.ofToken filter.comparator = .ok comparator →
      subject.field? filter.field = some field →
      Adds subject options position filter
        (some ⟨none, comparator.predicate options.wildcards value field.operand⟩)
  /-- A filter on a tag adds a join and a condition on the joined value. -/
  | tag {value : String} {comparator : Comparator} {tags : TagTable} :
      filter.specified? = some value → Comparator.ofToken filter.comparator = .ok comparator →
      subject.field? filter.field = none → subject.accepts options filter.field = true →
      subject.tags = some tags →
      Adds subject options position filter
        (some (tags.plan subject.id position filter.field
          (comparator.predicate options.wildcards value)))
  /-- Where there are no tags, a filter on a tag adds nothing. -/
  | skipped {value : String} {comparator : Comparator} :
      filter.specified? = some value → Comparator.ofToken filter.comparator = .ok comparator →
      subject.field? filter.field = none → subject.accepts options filter.field = true →
      subject.tags = none → Adds subject options position filter none

/-- What a list of filters **adds** to a query, the first of them at a given position. -/
inductive AddsAll (subject : Subject) (options : Options) :
    Nat → List Filter → List Clause → Prop
  | nil {position : Nat} : AddsAll subject options position [] []
  | cons {position : Nat} {filter : Filter} {rest : List Filter} {clause : Option Clause}
      {clauses : List Clause} :
      subject.Adds options position filter clause →
      AddsAll subject options (position + 1) rest clauses →
      AddsAll subject options position (filter :: rest) (clause.toList ++ clauses)

variable {subject : Subject} {options : Options} {position : Nat}

/-- The compiler succeeds for one filter with what the filter adds. -/
theorem clause?_eq_ok_iff {filter : Filter} {clause : Option Clause} :
    subject.clause? options position filter = .ok clause ↔
      subject.Adds options position filter clause := by
  constructor
  · intro h
    unfold clause? at h
    split at h
    · next hnone => cases h; exact .nothing hnone
    · next value hvalue =>
      cases hcomparator : Comparator.ofToken filter.comparator with
      | error e => rw [hcomparator] at h; cases h
      | ok comparator =>
        rw [hcomparator] at h
        dsimp only [bind, Except.bind] at h
        split at h
        · next field hfield => cases h; exact .column hvalue hcomparator hfield
        · next hfield =>
          split at h
          · next haccepts =>
            cases h
            cases htags : subject.tags with
            | none => exact .skipped hvalue hcomparator hfield haccepts htags
            | some tags => exact .tag hvalue hcomparator hfield haccepts htags
          · cases h
  · intro h
    cases h with
    | nothing hnone => simp [clause?, hnone]
    | column hvalue hcomparator hfield =>
      simp [clause?, hvalue, hcomparator, hfield, bind, Except.bind]
    | tag hvalue hcomparator hfield haccepts htags =>
      simp [clause?, hvalue, hcomparator, hfield, haccepts, htags, bind, Except.bind]
    | skipped hvalue hcomparator hfield haccepts htags =>
      simp [clause?, hvalue, hcomparator, hfield, haccepts, htags, bind, Except.bind]

/-- **A filter can be added** if it has no value, or if its comparator exists and its field is
known or accepted as the name of a tag. Nothing else about it matters, and neither does its
position. -/
theorem exists_adds_iff {filter : Filter} :
    (∃ clause, subject.Adds options position filter clause) ↔
      ∀ value, filter.specified? = some value →
        (∃ comparator, Comparator.ofToken filter.comparator = .ok comparator) ∧
          (subject.field? filter.field = none → subject.accepts options filter.field = true) := by
  constructor
  · rintro ⟨_, hadds⟩ value hvalue
    cases hadds with
    | nothing hnone => rw [hnone] at hvalue; cases hvalue
    | column _ htoken hfield =>
      refine ⟨⟨_, htoken⟩, fun hunknown => ?_⟩
      rw [hfield] at hunknown
      cases hunknown
    | tag _ htoken _ haccepts _ => exact ⟨⟨_, htoken⟩, fun _ => haccepts⟩
    | skipped _ htoken _ haccepts _ => exact ⟨⟨_, htoken⟩, fun _ => haccepts⟩
  · intro happlies
    cases hvalue : filter.specified? with
    | none => exact ⟨_, .nothing hvalue⟩
    | some value =>
      obtain ⟨⟨_, htoken⟩, haccepts⟩ := happlies value hvalue
      cases hfield : subject.field? filter.field with
      | some field => exact ⟨_, .column hvalue htoken hfield⟩
      | none =>
        cases htags : subject.tags with
        | none => exact ⟨_, .skipped hvalue htoken hfield (haccepts hfield) htags⟩
        | some tags => exact ⟨_, .tag hvalue htoken hfield (haccepts hfield) htags⟩

/-- The compiler succeeds for a list of filters with what the filters add. -/
theorem clausesFrom_eq_ok_iff {filters : List Filter} {clauses : List Clause} :
    subject.clausesFrom options position filters = .ok clauses ↔
      subject.AddsAll options position filters clauses := by
  constructor
  · intro h
    induction filters generalizing position clauses with
    | nil => cases h; exact .nil
    | cons filter rest ih =>
      rw [clausesFrom] at h
      cases hclause : subject.clause? options position filter with
      | error e => rw [hclause] at h; cases h
      | ok clause =>
        cases hothers : subject.clausesFrom options (position + 1) rest with
        | error e => rw [hclause, hothers] at h; cases h
        | ok others =>
          rw [hclause, hothers] at h
          cases h
          exact .cons (clause?_eq_ok_iff.mp hclause) (ih hothers)
  · intro h
    induction h with
    | nil => rfl
    | cons hclause _ ih => rw [clausesFrom, clause?_eq_ok_iff.mpr hclause, ih]; rfl

/-- A compilation succeeds when its filters do, with the query assembled from their clauses. -/
theorem compile_eq_ok_iff {scopeId : String} {filters : List Filter}
    {selection : Option Selection} {query : Query} :
    subject.compile options scopeId filters selection = .ok query ↔
      ∃ clauses, subject.AddsAll options 0 filters clauses ∧
        query = subject.assemble options scopeId selection clauses := by
  simp only [← clausesFrom_eq_ok_iff]
  rw [compile]
  cases hclauses : subject.clausesFrom options 0 filters with
  | error e => exact ⟨nofun, nofun⟩
  | ok clauses =>
    constructor
    · rintro ⟨⟩
      exact ⟨clauses, rfl, rfl⟩
    · rintro ⟨_, ⟨⟩, rfl⟩
      rfl

end Subject

end LogFilter
