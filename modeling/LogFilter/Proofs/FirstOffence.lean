import LogFilter.Proofs.Clauses

/-!
# The First Offending Filter

A compilation can fail for two reasons only, and both lie in one filter: its comparator is none of
the four, or its field is neither known nor accepted as the name of a tag. A filter without a value
gives no reason, whatever it says, and where both reasons are given the comparator is the one that
counts. This module says when a filter offends without looking at the compiler, and then relates
the two, for one filter and along a list: the compiler goes on exactly as long as no filter
offends, so that of several offences the first one is the error.

Neither the scope nor the selection has a part in this, nor anything about the options but the
policy for unknown fields with its known tags. And what comes after the first offending filter is
never looked at.

## Main definitions

* `Subject.Offends`: what is wrong with a filter, as the error that tells it.
* `Subject.FirstOffence`: the error of the first filter of a list that offends.
* `Subject.FailsAtFirst`: what decides over the outcome of a compilation.

## Main results

* `Subject.clause?_eq_error_iff`: the compiler refuses a filter exactly if it offends.
* `Subject.compile_eq_error_iff`: a compilation fails with the first offence.
* `Subject.failsAtFirst`: nothing else decides over its outcome.
-/

namespace LogFilter

/-- A filter has a value if it is there and not empty. -/
theorem Filter.specified?_eq_some_iff {filter : Filter} {value : String} :
    filter.specified? = some value ↔ filter.value = some value ∧ value ≠ "" := by
  rw [specified?, Option.filter_eq_some_iff]
  refine and_congr_right fun _ => ?_
  rw [Bool.not_eq_true', ← Bool.not_eq_true, String.isEmpty_iff]

/-- Options with the **same policy** for unknown fields: they treat them alike and know the same
tags. -/
def Options.SamePolicy (options other : Options) : Prop :=
  other.unknownFields = options.unknownFields ∧ other.knownTags = options.knownTags

/-- Of two options with the same policy, either has the policy of the other. -/
theorem Options.SamePolicy.symm {options other : Options} (h : options.SamePolicy other) :
    other.SamePolicy options :=
  ⟨h.1.symm, h.2.symm⟩

namespace Subject

variable {subject : Subject} {options other : Options} {filter : Filter} {filters : List Filter}
  {scopeId : String} {selection : Option Selection} {e : Error}

/-! ### One filter -/

/-- What is **wrong with a filter**, as the error that tells it. A filter without a value is never
wrong. -/
inductive Offends (subject : Subject) (options : Options) (filter : Filter) : Error → Prop
  /-- Its comparator is none of the four. -/
  | comparator {value : String} : filter.value = some value → value ≠ "" →
      (∀ comparator : Comparator, comparator.token ≠ filter.comparator) →
      Offends subject options filter (.unknownComparator filter.comparator)
  /-- Its comparator is one of the four, but unknown fields are refused, its field is not known,
  and there are no tags or it is not the name of a known one. -/
  | field {value : String} {comparator : Comparator} : filter.value = some value → value ≠ "" →
      comparator.token = filter.comparator → options.unknownFields = .reject →
      (∀ field ∈ subject.fields, field.name ≠ filter.field) →
      subject.tags = none ∨ filter.field ∉ options.knownTags.toList →
      Offends subject options filter (.unknownField filter.field)

/-- A name is not accepted if unknown fields are refused, and there are no tags or it is not that
of a known one. -/
theorem accepts_eq_false_iff {name : String} :
    subject.accepts options name = false ↔ options.unknownFields = .reject ∧
      (subject.tags = none ∨ name ∉ options.knownTags.toList) := by
  rw [accepts]
  cases options.unknownFields with
  | tag => exact ⟨nofun, fun h => nomatch h.1⟩
  | reject =>
    rw [Bool.and_eq_false_iff, Option.isSome_eq_false_iff, Option.isNone_iff_eq_none,
      NameSet.contains, List.contains_eq_mem, decide_eq_false_iff_not]
    exact ⟨fun h => ⟨rfl, h⟩, And.right⟩

/-- **The compiler refuses a filter exactly if it offends**, at whichever position it stands. -/
theorem clause?_eq_error_iff (position : Nat) :
    subject.clause? options position filter = .error e ↔ subject.Offends options filter e := by
  constructor
  · intro h
    rw [clause?] at h
    split at h
    · cases h
    · next value hspecified =>
      obtain ⟨hvalue, hne⟩ := Filter.specified?_eq_some_iff.mp hspecified
      cases htoken : Comparator.ofToken filter.comparator with
      | error e' =>
        rw [htoken] at h
        cases h
        obtain ⟨hnone, rfl⟩ := Comparator.ofToken_eq_error_iff.mp htoken
        exact .comparator hvalue hne hnone
      | ok comparator =>
        rw [htoken] at h
        dsimp only [bind, Except.bind] at h
        split at h
        · cases h
        · next hfield =>
          split at h
          · cases h
          · next haccepts =>
            cases h
            obtain ⟨hpolicy, hunknown⟩ := accepts_eq_false_iff.mp (Bool.eq_false_iff.mpr haccepts)
            exact .field hvalue hne (Comparator.ofToken_eq_ok_iff.mp htoken) hpolicy
              (field?_eq_none_iff.mp hfield) hunknown
  · intro h
    cases h with
    | comparator hvalue hne hnone =>
      have hspecified := Filter.specified?_eq_some_iff.mpr ⟨hvalue, hne⟩
      have htoken := Comparator.ofToken_eq_error_iff.mpr ⟨hnone, rfl⟩
      simp [clause?, hspecified, htoken, bind, Except.bind]
    | field hvalue hne htoken hpolicy hfields hunknown =>
      have hspecified := Filter.specified?_eq_some_iff.mpr ⟨hvalue, hne⟩
      have htoken := Comparator.ofToken_eq_ok_iff.mpr htoken
      have hfield := field?_eq_none_iff.mpr hfields
      have haccepts := accepts_eq_false_iff.mpr ⟨hpolicy, hunknown⟩
      simp [clause?, hspecified, htoken, hfield, haccepts, bind, Except.bind]

/-- The compiler accepts a filter, whatever the filter adds, exactly if it does not offend. -/
theorem exists_clause?_eq_ok_iff (position : Nat) :
    (∃ clause, subject.clause? options position filter = .ok clause) ↔
      ∀ e, ¬subject.Offends options filter e := by
  simp only [← clause?_eq_error_iff position]
  cases subject.clause? options position filter with
  | ok clause => exact ⟨fun _ _ => nofun, fun _ => ⟨clause, rfl⟩⟩
  | error e => exact ⟨fun ⟨_, h⟩ => (nomatch h), fun h => absurd rfl (h e)⟩

/-- What is wrong with a filter lies in the filter. -/
theorem Offends.isValidation (h : subject.Offends options filter e) : e.isValidation = true := by
  cases h <;> rfl

/-- A filter offends under every policy that is the same. -/
theorem Offends.congr (h : options.SamePolicy other) (hoffends : subject.Offends options filter e) :
    subject.Offends other filter e := by
  obtain ⟨hpolicy, htags⟩ := h
  cases hoffends with
  | comparator hvalue hne hnone => exact .comparator hvalue hne hnone
  | field hvalue hne htoken hreject hfields hunknown =>
    exact .field hvalue hne htoken (hpolicy.trans hreject) hfields (htags ▸ hunknown)

/-! ### A list of filters -/

/-- The **first offence** of a list, as the error that tells it: some filter offends, and none
before it does. -/
def FirstOffence (subject : Subject) (options : Options) (filters : List Filter) (e : Error) :
    Prop :=
  ∃ before filter after, filters = before ++ filter :: after ∧
    (∀ earlier ∈ before, ∀ e', ¬subject.Offends options earlier e') ∧
    subject.Offends options filter e

/-- The first offence of a list is that of its first filter or, if this does not offend, the first
one of the others. -/
theorem firstOffence_cons_iff : subject.FirstOffence options (filter :: filters) e ↔
    subject.Offends options filter e ∨
      (∀ e', ¬subject.Offends options filter e') ∧ subject.FirstOffence options filters e := by
  constructor
  · rintro ⟨before, offender, after, hfilters, hbefore, hoffends⟩
    cases before with
    | nil =>
      obtain ⟨rfl, rfl⟩ := List.cons.inj hfilters
      exact .inl hoffends
    | cons first before =>
      obtain ⟨rfl, rfl⟩ := List.cons.inj hfilters
      obtain ⟨hfirst, hbefore⟩ := List.forall_mem_cons.mp hbefore
      exact .inr ⟨hfirst, before, offender, after, rfl, hbefore, hoffends⟩
  · rintro (hoffends | ⟨hfirst, before, offender, after, rfl, hbefore, hoffends⟩)
    · exact ⟨[], filter, filters, rfl, nofun, hoffends⟩
    · exact ⟨filter :: before, offender, after, rfl, List.forall_mem_cons.mpr ⟨hfirst, hbefore⟩,
        hoffends⟩

/-- If any filter offends, then some filter is the first. -/
theorem exists_firstOffence_iff : (∃ e, subject.FirstOffence options filters e) ↔
    ∃ filter ∈ filters, ∃ e, subject.Offends options filter e := by
  constructor
  · rintro ⟨e, before, filter, after, rfl, -, hoffends⟩
    exact ⟨filter, List.mem_append_right _ List.mem_cons_self, e, hoffends⟩
  · rintro ⟨offender, hmem, e, hoffends⟩
    induction filters with
    | nil => cases hmem
    | cons filter rest ih =>
      by_cases hfirst : ∃ e', subject.Offends options filter e'
      · exact hfirst.imp fun e' h => firstOffence_cons_iff.mpr (.inl h)
      · rcases List.mem_cons.mp hmem with rfl | hlater
        · exact absurd ⟨e, hoffends⟩ hfirst
        · obtain ⟨e', hrest⟩ := ih hlater
          exact ⟨e', firstOffence_cons_iff.mpr (.inr ⟨not_exists.mp hfirst, hrest⟩)⟩

/-- The first offence is the same under every policy that is the same. -/
theorem FirstOffence.congr (h : options.SamePolicy other)
    (hfirst : subject.FirstOffence options filters e) : subject.FirstOffence other filters e := by
  obtain ⟨before, filter, after, rfl, hbefore, hoffends⟩ := hfirst
  exact ⟨before, filter, after, rfl,
    fun earlier hmem e' hearlier => hbefore earlier hmem e' (hearlier.congr h.symm),
    hoffends.congr h⟩

/-- What is wrong with a list of filters lies in the filters. -/
theorem FirstOffence.isValidation (h : subject.FirstOffence options filters e) :
    e.isValidation = true := by
  obtain ⟨_, _, _, -, -, hoffends⟩ := h
  exact hoffends.isValidation

/-- The compiler goes through a list until the first offence. -/
theorem clausesFrom_eq_error_iff (position : Nat) :
    subject.clausesFrom options position filters = .error e ↔
      subject.FirstOffence options filters e := by
  induction filters generalizing position with
  | nil => exact ⟨nofun, fun ⟨before, _, _, hfilters, _⟩ => by simp at hfilters⟩
  | cons filter rest ih =>
    rw [clausesFrom, firstOffence_cons_iff, ← exists_clause?_eq_ok_iff position,
      ← clause?_eq_error_iff position, ← ih (position + 1)]
    cases subject.clause? options position filter with
    | error e' => simp [bind, Except.bind]
    | ok clause =>
      cases subject.clausesFrom options (position + 1) rest <;>
        simp [bind, Except.bind, pure, Except.pure]

/-- **A compilation fails exactly with the first offence of its filters.** -/
theorem compile_eq_error_iff : subject.compile options scopeId filters selection = .error e ↔
    subject.FirstOffence options filters e := by
  rw [← clausesFrom_eq_error_iff 0, compile]
  cases subject.clausesFrom options 0 filters <;> simp [bind, Except.bind, pure, Except.pure]

/-- The compilations of some filters **fail at the first offence**, whatever the scope, the
selection and everything in the options but the policy for unknown fields. -/
structure FailsAtFirst (subject : Subject) (options : Options) (filters : List Filter) :
    Prop where
  /-- They fail exactly if some filter offends. -/
  fails : ∀ other, options.SamePolicy other → ∀ scopeId selection,
    (∃ e, subject.compile other scopeId filters selection = .error e) ↔
      ∃ filter ∈ filters, ∃ e, subject.Offends options filter e
  /-- The error is that of the first filter that offends. -/
  first : ∀ other, options.SamePolicy other → ∀ scopeId selection e,
    subject.compile other scopeId filters selection = .error e ↔
      subject.FirstOffence options filters e
  /-- Nothing that could stand after this filter changes that. -/
  ignoresRest : ∀ before filter after e, filters = before ++ filter :: after →
    (∀ earlier ∈ before, ∀ e', ¬subject.Offends options earlier e') →
    subject.Offends options filter e →
    ∀ other, options.SamePolicy other → ∀ scopeId selection rest,
      subject.compile other scopeId (before ++ filter :: rest) selection = .error e

/-- **A compilation fails at the first offending filter**, and nothing but the filters up to this
one and the policy for unknown fields has a part in whether it fails and with which error. -/
theorem failsAtFirst (subject : Subject) (options : Options) (filters : List Filter) :
    subject.FailsAtFirst options filters := by
  have hfirst (other : Options) (hsame : options.SamePolicy other) (scopeId : String)
      (filters : List Filter) (selection : Option Selection) (e : Error) :
      subject.compile other scopeId filters selection = .error e ↔
        subject.FirstOffence options filters e :=
    compile_eq_error_iff.trans ⟨FirstOffence.congr hsame.symm, FirstOffence.congr hsame⟩
  constructor
  case fails =>
    intro other hsame scopeId selection
    rw [← exists_firstOffence_iff]
    exact exists_congr (hfirst other hsame scopeId filters selection)
  case first => exact fun other hsame scopeId => hfirst other hsame scopeId filters
  case ignoresRest =>
    intro before filter after e _ hbefore hoffends other hsame scopeId selection rest
    exact (hfirst other hsame scopeId _ selection e).mpr
      ⟨before, filter, rest, rfl, hbefore, hoffends⟩

-- Of two comparators that do not exist the first has no value, and the second comes after a field
-- that is refused.
example : loggedCalls.compile { unknownFields := .reject } "p"
    [⟨"model", "LIKE", some ""⟩, ⟨"color", "=", some "red"⟩, ⟨"model", "LIKE", some "gpt"⟩] none =
      .error (.unknownField "color") :=
  rfl

end Subject

end LogFilter
