import LogFilter.Proofs.Complement
import LogFilter.Proofs.LiteralSearch

/-!
# The Order of the Comparators

A text that equals a value contains it, and a text that contains a value as it stands also
contains it with its wildcards at work. The negative comparators are the opposites of the
positive ones, so they are ordered the other way around. Records inherit the order, whatever
their fields are and whether or not they have a text: where a filter is changed for one that
admits no less, every record that was asked for still is.

The results inherit it, too, as far as there are any. One filter joins few tables, binds few
values and nests little, so the only limit that its query can exceed is that of the pattern, which
the comparators with no pattern do not have.

## Main definitions

* `Comparator.Within`: whether a comparator admits no more than another one.
* `Options.reading`: options under which wildcards have a meaning.
* `Subject.Nests`: how the results of one filter are ordered by its comparator.

## Main results

* `LikePattern.matches_containing_of_literal`, `LikePattern.matches_containing_eq`: the two
  patterns of a value compared.
* `Subject.fetchIds_compile_singleton`: the result of one filter.
* `Subject.nests`: the results of one filter are ordered as the comparators are.
-/

namespace LogFilter

open Sql

/-! ### The two patterns of a value -/

namespace Sql

/-- What fits items that stand for themselves still fits where some of them are wildcards. -/
theorem Fits.ofChar {word text : List Char} {items : List PatternItem}
    (h : Fits (word.map .exactly ++ items) text) : Fits (word.map .ofChar ++ items) text := by
  induction word generalizing text with
  | nil => exact h
  | cons c word ih =>
    obtain ⟨rest, rfl, hrest⟩ := fits_exactly_iff.mp h
    have hlater := ih hrest
    rw [List.map_cons, List.cons_append, PatternItem.ofChar]
    split
    · exact fits_anyRun_iff.mpr ⟨rest, List.suffix_cons c rest, hlater⟩
    · split
      · exact .anyOne c hlater
      · exact .exactly c hlater

namespace LikePattern

variable {value text : String}

/-- A value is found in itself. -/
theorem matches_containingLiteral_self (value : String) :
    (containingLiteral value).matches value = true := by
  rw [matches_containingLiteral_iff, OccursAs]
  split
  · exact List.suffix_rfl
  · next hnul => rw [beforeNul_of_notMem hnul]

/-- **Wildcards at work find no less**: what matches the escaped pattern of a value matches the
one in which its wildcards keep their meaning. -/
theorem matches_containing_of_literal (h : (containingLiteral value).matches text = true) :
    (containing value).matches text = true := by
  rw [matches_iff, items?_containingLiteral] at h
  obtain ⟨_, ⟨⟩, hfits⟩ := h
  obtain ⟨tail, hsuffix, htail⟩ := fits_anyRun_iff.mp hfits
  exact matches_iff.mpr
    ⟨_, items?_containing value, fits_anyRun_iff.mpr ⟨tail, hsuffix, htail.ofChar⟩⟩

/-- **The two patterns of a value without wildcards match the same texts.** A backslash is none:
it has no meaning of its own where nothing is escaped. -/
theorem matches_containing_eq (hpercent : '%' ∉ value.toList) (hunderscore : '_' ∉ value.toList)
    (text : String) : (containing value).matches text = (containingLiteral value).matches text := by
  have hitems : (matchedChars value).map PatternItem.ofChar =
      (matchedChars value).map PatternItem.exactly := by
    refine List.map_congr_left fun c hc => ?_
    obtain ⟨d, hd, rfl⟩ := List.mem_map.mp hc
    have hmem : d ∈ value.toList := (List.takeWhile_prefix _).subset hd
    have hnotPercent : matched d ≠ '%' := fun h =>
      hpercent ((matched_eq_iff (.inr (.inl rfl))).mp h ▸ hmem)
    have hnotUnderscore : matched d ≠ '_' := fun h =>
      hunderscore ((matched_eq_iff (.inr (.inr rfl))).mp h ▸ hmem)
    rw [PatternItem.ofChar, if_neg hnotPercent, if_neg hnotUnderscore]
  rw [Bool.eq_iff_iff, matches_iff, matches_iff, items?_containing, items?_containingLiteral,
    hitems]

end LikePattern

end Sql

/-! ### The comparators -/

namespace Comparator

/-- Whether a comparator **admits no more** than another one, each with a meaning of wildcards,
whatever the value and the text are. -/
def Within (comparator : Comparator) (wildcards : Wildcards) (other : Comparator)
    (wider : Wildcards) : Prop :=
  ∀ value stored, comparator.admits wildcards value stored = true →
    other.admits wider value stored = true

variable {comparator other : Comparator} {wildcards wider : Wildcards}

/-- Opposites are ordered the other way around. -/
theorem Within.opposite (h : comparator.Within wildcards other wider) :
    other.opposite.Within wider comparator.opposite wildcards := by
  intro value stored hother
  rw [admits_opposite, Bool.not_eq_true'] at hother ⊢
  exact Bool.eq_false_iff.mpr fun hadmits => Bool.eq_false_iff.mp hother (h value stored hadmits)

/-- What equals a value contains it. -/
theorem equals_within (wildcards : Wildcards) : equals.Within wildcards contains .literal := by
  intro value stored hequals
  rw [admits, beq_iff_eq] at hequals
  rw [hequals, admits, Option.any_some, Wildcards.containing]
  exact LikePattern.matches_containingLiteral_self value

/-- What contains a value as it stands contains it with its wildcards at work. -/
theorem contains_within : contains.Within .literal contains .active := by
  intro value stored hcontains
  cases stored with
  | none => cases hcontains
  | some text =>
    simp only [admits, Option.any_some, Wildcards.containing] at hcontains ⊢
    exact LikePattern.matches_containing_of_literal hcontains

end Comparator

/-! ### Records -/

/-- Options under which wildcards in a value have a **given meaning**. -/
def Options.reading (options : Options) (wildcards : Wildcards) : Options :=
  { options with escapeLikeWildcards := decide (wildcards = .literal) }

/-- Under these options wildcards have the meaning. -/
@[simp] theorem Options.wildcards_reading (options : Options) (wildcards : Wildcards) :
    (options.reading wildcards).wildcards = wildcards := by
  cases wildcards <;> rfl

/-- The ids that **one filter** asks for, under a meaning of wildcards. -/
def Store.found (store : Store) (subject : Subject) (options : Options) (scopeId field : String)
    (value : String) (comparator : Comparator) (wildcards : Wildcards) : List String :=
  store.askedIds subject (options.reading wildcards) scopeId
    [Filter.make field comparator value] none

section Results

variable {store : Store} {subject : Subject} {options : Options} {scopeId field value : String}
  {comparator other : Comparator} {wildcards wider : Wildcards}

/-- A record whose field a comparator admits is admitted by one that admits no less. -/
theorem Comparator.Within.admits_record (h : comparator.Within wildcards other wider)
    {record : Record} (hadmits : store.admits comparator wildcards value field record = true) :
    store.admits other wider value field record = true := by
  cases record with
  | call call => exact h _ _ hadmits
  | entry entry =>
    rw [Store.admits] at hadmits ⊢
    cases htext : entry.text? field with
    | none => rfl
    | some stored =>
      rw [htext] at hadmits
      exact h _ _ hadmits

/-- A record that satisfies a filter satisfies one that admits no less. -/
theorem Comparator.Within.satisfies (h : comparator.Within wildcards other wider)
    (hvalue : value ≠ "") {record : Record}
    (hsatisfies : store.satisfies (options.reading wildcards) record
      (Filter.make field comparator value) = true) :
    store.satisfies (options.reading wider) record (Filter.make field other value) = true := by
  have htoken (c : Comparator) :
      Comparator.ofToken (Filter.make field c value).comparator = .ok c := c.ofToken_token
  simp only [Store.satisfies, Filter.specified?_make hvalue, htoken,
    Options.wildcards_reading] at hsatisfies ⊢
  exact h.admits_record hsatisfies

/-- **A filter that admits no more asks for fewer records**, in the same order. -/
theorem Comparator.Within.found_sublist (h : comparator.Within wildcards other wider)
    (hstore : store.WellFormed) (hvalue : value ≠ "") :
    (store.found subject options scopeId field value comparator wildcards).Sublist
      (store.found subject options scopeId field value other wider) := by
  have hasked : store.asked subject (options.reading wildcards) scopeId
        [Filter.make field comparator value] none =
      (store.asked subject (options.reading wider) scopeId [Filter.make field other value]
        none).filter fun record => store.satisfies (options.reading wildcards) record
          (Filter.make field comparator value) := by
    refine Subject.asked_eq_filter hstore fun record _ => ?_
    rw [Bool.eq_iff_iff]
    simp only [Store.meets, List.all_cons, List.all_nil, Bool.and_true, Bool.and_eq_true]
    constructor
    · rintro ⟨⟨hscope, hfilter⟩, hselects⟩
      exact ⟨hfilter, ⟨hscope, h.satisfies hvalue hfilter⟩, hselects⟩
    · rintro ⟨hfilter, ⟨hscope, -⟩, hselects⟩
      exact ⟨⟨hscope, hfilter⟩, hselects⟩
  rw [Store.found, Store.askedIds, hasked]
  exact List.filter_sublist.map _

end Results

/-! ### Queries of one filter -/

namespace Subject

variable {subject : Subject} {options : Options} {scopeId : String} {store : Store}

/-- Whether a filter can be added does not depend on the meaning of wildcards. -/
theorem Adds.exists_reading {position : Nat} {filter : Filter} {clause : Option Clause}
    {wildcards : Wildcards} (h : subject.Adds (options.reading wildcards) position filter clause)
    (wider : Wildcards) :
    ∃ clause, subject.Adds (options.reading wider) position filter clause := by
  have happlies := exists_adds_iff.mp ⟨_, h⟩
  exact exists_adds_iff.mpr happlies

/-- If one filter compiles, then it does with every comparator and every meaning of wildcards. -/
theorem exists_compile_singleton {field value : String} {comparator : Comparator}
    {wildcards : Wildcards} {selection : Option Selection} {query : Query}
    (hquery : subject.compile (options.reading wildcards) scopeId
      [Filter.make field comparator value] selection = .ok query)
    (other : Comparator) (wider : Wildcards) :
    ∃ query, subject.compile (options.reading wider) scopeId [Filter.make field other value]
      selection = .ok query := by
  obtain ⟨_, hclauses, -⟩ := compile_eq_ok_iff.mp hquery
  cases hclauses with
  | cons hadds _ =>
    obtain ⟨_, hread⟩ := hadds.exists_reading wider
    obtain ⟨_, hother⟩ := hread.of_comparator other
    exact ⟨_, compile_eq_ok_iff.mpr ⟨_, .cons hother .nil, rfl⟩⟩

/-- The query of one filter passes the check. -/
theorem check_compile_singleton {filter : Filter} {query : Query}
    (hquery : subject.compile options scopeId [filter] none = .ok query) :
    query.check .ids = .ok () := by
  obtain ⟨_, hclauses, rfl⟩ := compile_eq_ok_iff.mp hquery
  cases hclauses with
  | cons hadds hrest =>
    cases hrest
    cases hadds with
    | nothing _ => cases subject <;> rfl
    | @column _ comparator field _ _ _ =>
      generalize options.wildcards = wildcards
      cases subject <;> cases comparator <;> cases wildcards <;> rfl
    | @tag _ comparator tags _ _ _ _ htags =>
      cases subject with
      | datasetEntries => cases htags
      | loggedCalls =>
        obtain rfl := Option.some.inj htags
        generalize options.wildcards = wildcards
        cases comparator <;> cases wildcards <;> rfl
    | skipped _ _ _ _ _ => cases subject <;> rfl

/-- **The result of one filter** is what it asks for, unless its pattern is too long. -/
theorem fetchIds_compile_singleton (hstore : store.WellFormed) {filter : Filter} {query : Query}
    (hquery : subject.compile options scopeId [filter] none = .ok query) :
    store.fetchIds (.select query .sqlite .ids) =
        .ok (store.askedIds subject options scopeId [filter] none) ∨
      filter.isTooLong options.wildcards = true ∧
        store.fetchIds (.select query .sqlite .ids) = .error .patternTooLong := by
  rw [fetchIds_compile_eq hstore hquery, check_compile_singleton hquery]
  refine (scan_agree_ok hquery store.engine store.tables .ids _).eq_ok_or.imp_right
    (And.imp_left fun hlong => ?_)
  simpa using any_isTooLong_of_compile hquery hlong

end Subject

/-- A filter has a pattern that is too long if its comparator has a pattern and the pattern of its
value is too long. -/
theorem Filter.isTooLong_make {field value : String} (hvalue : value ≠ "")
    {comparator : Comparator} {wildcards : Wildcards} :
    (Filter.make field comparator value).isTooLong wildcards = true ↔
      (comparator = .contains ∨ comparator = .notContains) ∧
        maxPatternBytes < (wildcards.containing value).pattern.utf8ByteSize := by
  have htoken : Comparator.ofToken (Filter.make field comparator value).comparator =
      .ok comparator := comparator.ofToken_token
  rw [isTooLong, specified?_make hvalue, htoken]
  cases comparator <;> simp

/-! ### The results of one filter -/

namespace Subject

/-- How the **results of one filter are ordered** by its comparator and by the meaning of
wildcards in its value. -/
structure Nests (store : Store) (subject : Subject) (options : Options)
    (scopeId field value : String) : Prop where
  /-- The text that equals the value contains it. -/
  self : ∀ text, text = value → (LikePattern.containingLiteral value).matches text = true
  /-- A text that contains the value as it stands contains it with its wildcards at work. -/
  wider : ∀ text, (LikePattern.containingLiteral value).matches text = true →
    (LikePattern.containing value).matches text = true
  /-- Without wildcards in the value there is no difference. -/
  alike : '%' ∉ value.toList → '_' ∉ value.toList → ∀ text,
    (LikePattern.containing value).matches text = (LikePattern.containingLiteral value).matches text
  /-- The filter compiles with every comparator if it does with one. -/
  compiles : ∀ comparator wildcards,
    (∃ query, subject.compile (options.reading wildcards) scopeId
      [Filter.make field comparator value] none = .ok query) →
    ∀ other wider, ∃ query, subject.compile (options.reading wider) scopeId
      [Filter.make field other value] none = .ok query
  /-- Each query has the ids that it asks for as its result, unless it searches for a pattern that
  is too long. -/
  answers : ∀ comparator wildcards query,
    subject.compile (options.reading wildcards) scopeId [Filter.make field comparator value] none =
      .ok query →
    store.fetchIds (.select query .sqlite .ids) =
        .ok (store.found subject options scopeId field value comparator wildcards) ∨
      ((comparator = .contains ∨ comparator = .notContains) ∧
        maxPatternBytes < (wildcards.containing value).pattern.utf8ByteSize) ∧
        store.fetchIds (.select query .sqlite .ids) = .error .patternTooLong
  /-- The ids of the records whose text equals the value are among those of the records whose text
  contains it, and these among those found with wildcards at work. -/
  positive : ∀ wildcards,
    (store.found subject options scopeId field value .equals wildcards).Sublist
        (store.found subject options scopeId field value .contains .literal) ∧
      (store.found subject options scopeId field value .contains .literal).Sublist
        (store.found subject options scopeId field value .contains .active)
  /-- The negative comparators are ordered the other way around. -/
  negative : ∀ wildcards,
    (store.found subject options scopeId field value .notContains .active).Sublist
        (store.found subject options scopeId field value .notContains .literal) ∧
      (store.found subject options scopeId field value .notContains .literal).Sublist
        (store.found subject options scopeId field value .notEquals wildcards)

/-- **The results of one filter are ordered as the comparators are**, in every reachable store:
what equals a value is found by a search for it, and what is found by a search for it as it stands
is found with its wildcards at work; the negative comparators have the opposite order. A result
can be missing only where a pattern is too long. -/
theorem nests {store : Store} (hstore : store.Reachable) {value : String} (hvalue : value ≠ "")
    (subject : Subject) (options : Options) (scopeId field : String) :
    Nests store subject options scopeId field value where
  self := by
    rintro _ rfl
    exact LikePattern.matches_containingLiteral_self _
  wider := fun _ => LikePattern.matches_containing_of_literal
  alike := LikePattern.matches_containing_eq
  compiles := fun _ _ ⟨_, hquery⟩ => exists_compile_singleton hquery
  answers := by
    intro comparator wildcards query hquery
    have hresult := fetchIds_compile_singleton hstore.wellFormed hquery
    rwa [Filter.isTooLong_make hvalue, options.wildcards_reading] at hresult
  positive := fun wildcards =>
    ⟨(Comparator.equals_within wildcards).found_sublist hstore.wellFormed hvalue,
      Comparator.contains_within.found_sublist hstore.wellFormed hvalue⟩
  negative := fun wildcards =>
    ⟨Comparator.contains_within.opposite.found_sublist hstore.wellFormed hvalue,
      (Comparator.equals_within wildcards).opposite.found_sublist hstore.wellFormed hvalue⟩

/-- A tag of one of the two calls contains a value only with its wildcard at work. -/
theorem nests_twoCalls : ∃ literal active,
    loggedCalls.compile (Options.reading {} .literal) "p" [Filter.make "env" .contains "pr_d"] none =
        .ok literal ∧
      loggedCalls.compile (Options.reading {} .active) "p" [Filter.make "env" .contains "pr_d"]
        none = .ok active ∧
      twoCalls.fetchIds (.select literal .sqlite .ids) = .ok [] ∧
      twoCalls.fetchIds (.select active .sqlite .ids) = .ok ["b"] ∧
      ["a"].Sublist (twoCalls.found loggedCalls {} "p" "env" "pr_d" .notContains .literal) := by
  have hnests := nests reachable_twoCalls (by decide : "pr_d" ≠ "") loggedCalls {} "p" "env"
  have hliteral : twoCalls.found loggedCalls {} "p" "env" "pr_d" .contains .literal = [] :=
    congrArg (List.map Record.id) (Store.asked_of_pairwise (by decide))
  have hactive : twoCalls.found loggedCalls {} "p" "env" "pr_d" .contains .active = ["b"] :=
    congrArg (List.map Record.id) (Store.asked_of_pairwise (by decide))
  have hnegative : twoCalls.found loggedCalls {} "p" "env" "pr_d" .notContains .active = ["a"] :=
    congrArg (List.map Record.id) (Store.asked_of_pairwise (by decide))
  refine ⟨_, _, rfl, rfl, ?_, ?_, ?_⟩
  · rcases hnests.answers .contains .literal _ rfl with hids | ⟨⟨-, hlong⟩, -⟩
    · rw [hids, hliteral]
    · exact absurd hlong (by decide)
  · rcases hnests.answers .contains .active _ rfl with hids | ⟨⟨-, hlong⟩, -⟩
    · rw [hids, hactive]
    · exact absurd hlong (by decide)
  · rw [← hnegative]
    exact (hnests.negative .active).1

/-- A store with one call, of a given model. -/
def callOfModel (model : String) : Store :=
  Store.empty.run [.record "p"
    { id := "a", model := some model, requestedAt := newYear, response := none, tags := .empty }]

/-- Nothing in a text of one letter is escaped. -/
theorem containingLiteral_letters (count : Nat) :
    (LikePattern.containingLiteral (letters count)).pattern =
      (LikePattern.containing (letters count)).pattern := by
  have hplain : escapeWildcards (List.replicate count 'a') = List.replicate count 'a' := by
    induction count with
    | zero => rfl
    | succ count ih => rw [List.replicate_succ, escapeWildcards, if_neg (by decide), ih]
  rw [LikePattern.containingLiteral, LikePattern.containing, letters, String.toList_ofList, hplain]

/-- The call is asked for by every comparator that admits its model. -/
theorem meets_callOfModel {model : String} (hmodel : model ≠ "") {comparator : Comparator}
    (h : comparator.admits .literal model (some model) = true) :
    (callOfModel model).meets (Options.reading {} .literal) "p"
      [Filter.make "model" comparator model] none (.call ⟨"a", "p", some model, newYear⟩) = true := by
  have htoken : Comparator.ofToken (Filter.make "model" comparator model).comparator =
      .ok comparator := comparator.ofToken_token
  have htext : (callOfModel model).callText? ⟨"a", "p", some model, newYear⟩
      (Filter.make "model" comparator model).field = some model := rfl
  simp only [Store.meets, List.all_cons, List.all_nil, Store.satisfies,
    Filter.specified?_make hmodel, htoken, Store.admits, htext, Options.wildcards_reading, h,
    Record.inScope, Store.selects, beq_self_eq_true, Bool.and_self]

/-- A filter on the model compiles with every comparator. -/
theorem compile_model {model : String} (hmodel : model ≠ "") (comparator : Comparator) :
    ∃ query, loggedCalls.compile (Options.reading {} .literal) "p"
        [Filter.make "model" comparator model] none = .ok query ∧
      comparator.predicate .literal model KnownField.model.operand ∈ query.predicates :=
  ⟨_, compile_eq_ok_iff.mpr ⟨_, .cons (.column (Filter.specified?_make hmodel _ _)
    comparator.ofToken_token rfl) .nil, rfl⟩, List.mem_cons_of_mem _ List.mem_cons_self⟩

/-- **A text can equal a value and not be found by a search for it**: the call is found by its
model, but where the model is as long as patterns may be, a search for it cannot be run. -/
theorem refuses_own_model : (callOfModel (letters maxPatternBytes)).Reachable ∧
    (∃ query, loggedCalls.compile (Options.reading {} .literal) "p"
        [Filter.make "model" .equals (letters maxPatternBytes)] none = .ok query ∧
      (callOfModel (letters maxPatternBytes)).fetchIds (.select query .sqlite .ids) = .ok ["a"]) ∧
    ∃ query, loggedCalls.compile (Options.reading {} .literal) "p"
        [Filter.make "model" .contains (letters maxPatternBytes)] none = .ok query ∧
      ∀ ids, (callOfModel (letters maxPatternBytes)).fetchIds (.select query .sqlite .ids) ≠
        .ok ids := by
  have hbytes := utf8ByteSize_letters maxPatternBytes
  have hplain := containingLiteral_letters maxPatternBytes
  -- The text itself is never looked at: its size and its two patterns are all that matters.
  generalize letters maxPatternBytes = model at hbytes hplain
  have hmodel : model ≠ "" := by
    rintro rfl
    cases hbytes
  have hstore : (callOfModel model).Reachable := ⟨_, _, rfl⟩
  have hequals : Comparator.equals.admits .literal model (some model) = true :=
    beq_self_eq_true (some model)
  refine ⟨hstore, ?_, ?_⟩
  · obtain ⟨query, hquery, -⟩ := compile_model hmodel .equals
    have hmeets := meets_callOfModel hmodel hequals
    have hasked : (callOfModel model).found loggedCalls {} "p" "model" model .equals .literal =
        ["a"] := by
      have hkept : ((callOfModel model).records loggedCalls).filter ((callOfModel model).meets
          (Options.reading {} .literal) "p" [Filter.make "model" .equals model] none) =
            [.call ⟨"a", "p", some model, newYear⟩] := List.filter_cons_of_pos hmeets
      rw [Store.found, Store.askedIds, Store.asked, hkept, List.mergeSort_singleton]
      rfl
    refine ⟨query, hquery, ?_⟩
    rcases fetchIds_compile_singleton hstore.wellFormed hquery with hids | ⟨hlong, -⟩
    · exact hids.trans (congrArg Except.ok hasked)
    · exact absurd ((Filter.isTooLong_make hmodel).mp hlong).1 (by decide)
  · obtain ⟨query, hquery, hmem⟩ := compile_model hmodel .contains
    have hlong := maxPatternBytes_lt_containing (Nat.le_of_eq hbytes.symm)
    have hmeets := meets_callOfModel hmodel (Comparator.equals_within .literal _ _ hequals)
    refine ⟨query, hquery, fetchIds_compile_ne_ok hstore.wellFormed hquery
      (.pattern hmem (decide_eq_true (hplain ▸ hlong))) ⟨_, List.mem_cons_self, hmeets⟩⟩

end Subject

end LogFilter
