import LogFilter.Proofs.Respelling

/-!
# Filters without a Value

A filter without a value is passed over before anything about it is looked at, so it can have any
field and any comparator, and its only trace is that the filters after it stand one position
further on. The position of a filter shows in one place: it is the number in the alias of a tag
join. So filters without a value can be put anywhere into a list, and the query stays the same up
to the numbers of the aliases, which follow the filters to their new places. Where no tag filter
moves, it stays the same altogether.

## Main definitions

* `Pads`: a list of filters with filters that have no value put in, and where it places each
  filter.
* `TagTable.renumber`: words with other numbers in the aliases of tag joins.

## Main results

* `Pads.refl`, `Pads.insert_anywhere`: filters can be put in anywhere, one after the other.
* `Pads.getElem?`: each filter stands at its place.
* `Subject.compile_pads`: compiling a padded list is compiling the list and renumbering.
* `Subject.unspecified_vanish`: filters without a value vanish from the text and the parameters.
-/

namespace LogFilter

open Sql

/-! ### Padded lists -/

/-- Whether a list of filters is **padded** with filters that have no value, the first list from
one position on and the padded one from another. `place` tells, of the position of each filter,
its position in the padded list. -/
inductive Pads (place : Nat → Nat) : Nat → Nat → List Filter → List Filter → Prop
  | nil {position moved : Nat} : Pads place position moved [] []
  /-- A filter of the list stands where `place` says. -/
  | keep {position moved : Nat} {filter : Filter} {filters padded : List Filter} :
      place position = moved → Pads place (position + 1) (moved + 1) filters padded →
      Pads place position moved (filter :: filters) (filter :: padded)
  /-- A filter that is put in has no value. -/
  | insert {position moved : Nat} {filter : Filter} {filters padded : List Filter} :
      filter.specified? = none → Pads place position (moved + 1) filters padded →
      Pads place position moved filters (filter :: padded)

namespace Pads

variable {place : Nat → Nat} {position moved : Nat} {filters padded : List Filter}

/-- A list is padded with nothing. -/
theorem refl (filters : List Filter) (position : Nat) : Pads id position position filters filters := by
  induction filters generalizing position with
  | nil => exact .nil
  | cons filter filters ih => exact .keep rfl (ih (position + 1))

/-- Places behind a filter that is put in move on by one. -/
def behind (start : Nat) (place : Nat → Nat) (position : Nat) : Nat :=
  if place position < start then place position else place position + 1

/-- A padded list that stands one position further on. -/
theorem moved_succ (h : Pads place position moved filters padded) {start : Nat}
    (hstart : start ≤ moved) : Pads (behind start place) position (moved + 1) filters padded := by
  induction h with
  | nil => exact .nil
  | keep hplace _ ih =>
    refine .keep ?_ (ih (Nat.le_succ_of_le hstart))
    rw [behind, hplace, if_neg (Nat.not_lt_of_le hstart)]
  | insert hnone _ ih => exact .insert hnone (ih (Nat.le_succ_of_le hstart))

/-- **One more filter without a value can be put in anywhere.** -/
theorem insert_anywhere {front back : List Filter}
    (h : Pads place position moved filters (front ++ back)) {filter : Filter}
    (hnone : filter.specified? = none) :
    Pads (behind (moved + front.length) place) position moved filters
      (front ++ filter :: back) := by
  induction front generalizing position moved filters with
  | nil => exact .insert hnone (h.moved_succ (Nat.le_refl _))
  | cons first front ih =>
    have hstart : moved + (first :: front).length = moved + 1 + front.length := by
      rw [List.length_cons]
      omega
    rw [hstart]
    cases h with
    | keep hplace hrest =>
      refine .keep ?_ (ih hrest)
      rw [behind, hplace, if_pos (by omega)]
    | insert hfirst hrest => exact .insert hfirst (ih hrest)

/-- A filter of the list stands at its place in the padded one. -/
theorem getElem? (h : Pads place position moved filters padded) {i : Nat} {filter : Filter}
    (hfilter : filters[i]? = some filter) :
    ∃ j, place (position + i) = moved + j ∧ padded[j]? = some filter := by
  induction h generalizing i with
  | nil => cases hfilter
  | keep hplace _ ih =>
    cases i with
    | zero => exact ⟨0, hplace, hfilter⟩
    | succ i =>
      obtain ⟨j, hj, hmem⟩ := ih hfilter
      rw [Nat.add_right_comm] at hj
      exact ⟨j + 1, hj.trans (Nat.add_right_comm _ 1 j), hmem⟩
  | insert _ _ ih =>
    obtain ⟨j, hj, hmem⟩ := ih hfilter
    exact ⟨j + 1, by omega, hmem⟩

/-- Of the filters that a test accepts, which accepts none without a value, both lists have the
same. -/
theorem filter_eq (h : Pads place position moved filters padded) {keep : Filter → Bool}
    (hkeep : ∀ filter : Filter, filter.specified? = none → keep filter = false) :
    padded.filter keep = filters.filter keep := by
  induction h with
  | nil => rfl
  | keep _ _ ih => rw [List.filter_cons, List.filter_cons, ih]
  | insert hnone _ ih => rw [List.filter_cons_of_neg (Bool.eq_false_iff.mp (hkeep _ hnone)), ih]

end Pads

/-! ### Renumbered aliases -/

namespace TagTable

variable {tags : TagTable} {place : Nat → Nat}

/-- The position whose alias a word is, if it is the alias of any. -/
def position? (tags : TagTable) (word : String) : Option Nat :=
  let position := Nat.ofDigitChars 10 (word.toList.drop tags.aliasStem.length) 0
  if tags.aliasAt position = word then some position else none

/-- A word with **another number** if it is the alias of a position: the alias of its place. Any
other word stays. -/
def renumber (tags : TagTable) (place : Nat → Nat) (word : String) : String :=
  match tags.position? word with
  | some position => tags.aliasAt (place position)
  | none => word

/-- A word is the alias of the position that is read off it. -/
theorem position?_eq_some_iff {word : String} {position : Nat} :
    tags.position? word = some position ↔ word = tags.aliasAt position := by
  simp only [position?]
  constructor
  · intro h
    split at h
    · next hword => exact hword.symm.trans (congrArg tags.aliasAt (Option.some.inj h))
    · cases h
  · rintro rfl
    have hdigits : (tags.aliasAt position).toList.drop tags.aliasStem.length =
        Nat.toDigits 10 position := by
      rw [aliasAt, String.toList_append, Nat.toList_repr, ← String.length_toList,
        List.drop_left]
    rw [hdigits, Nat.ofDigitChars_ten_toDigits, if_pos rfl]

/-- The alias of a position becomes that of its place. -/
theorem renumber_aliasAt (position : Nat) :
    tags.renumber place (tags.aliasAt position) = tags.aliasAt (place position) := by
  rw [renumber, position?_eq_some_iff.mpr rfl]

/-- A word that does not begin as aliases do stays. -/
theorem renumber_of_not_prefix {word : String} (h : ¬tags.aliasStem.toList <+: word.toList) :
    tags.renumber place word = word := by
  unfold renumber
  split
  · next position hposition =>
    refine absurd ?_ h
    rw [position?_eq_some_iff.mp hposition, aliasAt, String.toList_append]
    exact List.prefix_append _ _
  · rfl

end TagTable

/-- Renumbering aliases spares the keywords. -/
theorem sparesKeywords_renumber (place : Nat → Nat) : SparesKeywords (callTags.renumber place) := by
  intro word hhead
  refine TagTable.renumber_of_not_prefix fun hprefix => hhead ?_
  obtain ⟨rest, hrest⟩ := hprefix
  rw [← hrest]
  rfl

/-! ### Compiling with other numbers -/

/-- What a filter adds, with **respelled** names. -/
def Clause.respell (spell : String → String) (clause : Clause) : Clause where
  join := clause.join.map (LeftJoin.respell spell)
  predicate := clause.predicate.respell spell

section Renumbering

variable {place : Nat → Nat}

/-- A column stays if neither its alias nor its name begins as aliases of tag joins do. -/
theorem renumber_column {column : Column}
    (halias : ¬callTags.aliasStem.toList <+: column.tableAlias.toList)
    (hname : ¬callTags.aliasStem.toList <+: column.name.toList) :
    column.respell (callTags.renumber place) = column := by
  rw [Column.respell, TagTable.renumber_of_not_prefix halias,
    TagTable.renumber_of_not_prefix hname]

/-- A column of a tag join is that of the join at its place. -/
theorem renumber_tagColumn {name : String} (hname : ¬callTags.aliasStem.toList <+: name.toList)
    (position : Nat) : Column.respell (callTags.renumber place) ⟨callTags.aliasAt position, name⟩ =
      ⟨callTags.aliasAt (place position), name⟩ := by
  rw [Column.respell, TagTable.renumber_aliasAt, TagTable.renumber_of_not_prefix hname]

/-- The known fields are read from columns that stay. -/
theorem renumber_knownField (field : KnownField) :
    field.operand.respell (callTags.renumber place) = field.operand := by
  have hcolumn : field.column.respell (callTags.renumber place) = field.column := by
    cases field <;> exact renumber_column (by decide) (by decide)
  rw [KnownField.operand, Operand.respell, hcolumn]

/-- The condition of a comparator is put on the respelled operand. -/
theorem Comparator.respell_predicate (spell : String → String) (comparator : Comparator)
    (wildcards : Wildcards) (value : String) (operand : Operand) :
    (comparator.predicate wildcards value operand).respell spell =
      comparator.predicate wildcards value (operand.respell spell) := by
  cases comparator <;> rfl

/-- The id of logged calls stays. -/
theorem renumber_callId : Column.respell (callTags.renumber place) ⟨"lc", "id"⟩ = ⟨"lc", "id"⟩ :=
  renumber_column (by decide) (by decide)

/-- The join of a tag filter, renumbered, is the join at its place. -/
theorem renumber_joinAt (position : Nat) (name : String) :
    (tagJoin position name).respell (callTags.renumber place) = tagJoin (place position) name := by
  have htable : callTags.renumber place callTags.table = callTags.table :=
    TagTable.renumber_of_not_prefix (by decide)
  have hparent : ¬callTags.aliasStem.toList <+: callTags.parent.toList := by decide
  have hname : ¬callTags.aliasStem.toList <+: callTags.name.toList := by decide
  simp only [LeftJoin.respell, tagJoin, TagTable.joinAt, List.map_cons, List.map_nil,
    Predicate.respell, Operand.respell, htable, TagTable.renumber_aliasAt, renumber_callId,
    renumber_tagColumn hparent, renumber_tagColumn hname]

/-- **The plan of a tag filter, renumbered, is its plan at its place.** -/
theorem renumber_plan (position : Nat) (name : String) (comparator : Comparator)
    (wildcards : Wildcards) (value : String) :
    (callTags.plan ⟨"lc", "id"⟩ position name (comparator.predicate wildcards value)).respell
        (callTags.renumber place) =
      callTags.plan ⟨"lc", "id"⟩ (place position) name (comparator.predicate wildcards value) := by
  have hvalue : ¬callTags.aliasStem.toList <+: callTags.value.toList := by decide
  rw [TagTable.plan, Clause.respell, Option.map_some, ← tagJoin, renumber_joinAt,
    Comparator.respell_predicate, Operand.respell, renumber_tagColumn hvalue]
  rfl

end Renumbering

namespace Subject

variable {subject : Subject} {options : Options} {place : Nat → Nat} {position moved : Nat}
  {filters padded : List Filter}

/-- **What a filter adds at its place is what it adds at its position, renumbered.** -/
theorem clause?_place (filter : Filter) (position : Nat) :
    subject.clause? options (place position) filter =
      (subject.clause? options position filter).map
        (Option.map (Clause.respell (callTags.renumber place))) := by
  unfold clause?
  cases filter.specified? with
  | none => rfl
  | some value =>
    cases Comparator.ofToken filter.comparator with
    | error e => rfl
    | ok comparator =>
      simp only [bind, Except.bind]
      cases subject.field? filter.field with
      | some field =>
        simp only [Except.map, Option.map_some, Clause.respell, Option.map_none,
          Comparator.respell_predicate, renumber_knownField]
      | none =>
        cases subject.accepts options filter.field with
        | false => rfl
        | true =>
          cases subject with
          | datasetEntries => rfl
          | loggedCalls =>
            exact congrArg (fun clause => Except.ok (some clause))
              (renumber_plan position filter.field comparator options.wildcards value).symm

/-- What a padded list adds is what the list adds, renumbered. -/
theorem clausesFrom_pads (h : Pads place position moved filters padded) :
    subject.clausesFrom options moved padded =
      (subject.clausesFrom options position filters).map
        (List.map (Clause.respell (callTags.renumber place))) := by
  induction h with
  | nil => rfl
  | @keep position moved filter filters padded hplace _ ih =>
    -- Both lists come to the filter at the same time, so it is the same one that fails first.
    rw [clausesFrom, clausesFrom, ← hplace, clause?_place, hplace, ih]
    cases subject.clause? options position filter with
    | error e => rfl
    | ok clause =>
      cases subject.clausesFrom options (position + 1) filters with
      | error e => rfl
      | ok clauses => cases clause <;> rfl
  | @insert position moved filter filters padded hnone _ ih =>
    rw [clausesFrom, ih, clause?, hnone]
    cases subject.clausesFrom options position filters <;> rfl

/-- The columns of a subject stay. -/
theorem renumber_columns (subject : Subject) :
    subject.id.respell (callTags.renumber place) = subject.id ∧
      subject.orderBy.respell (callTags.renumber place) = subject.orderBy ∧
      ∀ column ∈ subject.status, column.respell (callTags.renumber place) = column := by
  cases subject with
  | loggedCalls =>
    refine ⟨renumber_callId, renumber_column (by decide) (by decide), ?_⟩
    rintro column ⟨⟩
    exact renumber_column (by decide) (by decide)
  | datasetEntries =>
    exact ⟨renumber_column (by decide) (by decide), renumber_column (by decide) (by decide), nofun⟩

/-- The tables of a subject stay, with their aliases. -/
theorem renumber_tables (subject : Subject) :
    callTags.renumber place subject.table = subject.table ∧
      callTags.renumber place subject.tableAlias = subject.tableAlias ∧
      subject.joins.map (LeftJoin.respell (callTags.renumber place)) = subject.joins := by
  cases subject with
  | loggedCalls =>
    have htable : callTags.renumber place "LoggedCallModelResponse" = "LoggedCallModelResponse" :=
      TagTable.renumber_of_not_prefix (by decide)
    have halias : callTags.renumber place "lcmr" = "lcmr" :=
      TagTable.renumber_of_not_prefix (by decide)
    have hcall : Column.respell (callTags.renumber place) ⟨"lcmr", "originalLoggedCallId"⟩ =
        ⟨"lcmr", "originalLoggedCallId"⟩ := renumber_column (by decide) (by decide)
    refine ⟨TagTable.renumber_of_not_prefix (by decide),
      TagTable.renumber_of_not_prefix (by decide), ?_⟩
    simp only [joins, List.map_cons, List.map_nil, LeftJoin.respell, Predicate.respell, htable,
      halias, hcall, (renumber_columns loggedCalls).1]
  | datasetEntries =>
    exact ⟨TagTable.renumber_of_not_prefix (by decide),
      TagTable.renumber_of_not_prefix (by decide), rfl⟩

/-- The conditions of a scope stay. -/
theorem renumber_scope (subject : Subject) (scopeId : String) :
    (subject.scope scopeId).map (Predicate.respell (callTags.renumber place)) =
      subject.scope scopeId := by
  have hkept {column : Column} (h : column.respell (callTags.renumber place) = column)
      (value : Scalar) : (Predicate.eq (.column column) value).respell (callTags.renumber place) =
        .eq (.column column) value := by
    rw [Predicate.respell, Operand.respell, h]
  cases subject with
  | loggedCalls =>
    exact congrArg (fun predicate => [predicate])
      (hkept (renumber_column (by decide) (by decide)) _)
  | datasetEntries =>
    exact congrArg₂ (fun first second => [first, second])
      (hkept (renumber_column (by decide) (by decide)) _)
      (hkept (renumber_column (by decide) (by decide)) _)

/-- The conditions of a selection stay. -/
theorem renumber_selection (subject : Subject) (selection : Selection) (successStatus : Int) :
    (selection.predicates subject.id subject.status successStatus).map
        (Predicate.respell (callTags.renumber place)) =
      selection.predicates subject.id subject.status successStatus := by
  obtain ⟨hid, -, hstatus⟩ := @renumber_columns place subject
  have hids : (selection.idPredicates subject.id).map
      (Predicate.respell (callTags.renumber place)) = selection.idPredicates subject.id := by
    unfold Selection.idPredicates
    split <;> split <;>
      simp only [List.map_cons, List.map_nil, Predicate.respell, Operand.respell, hid]
  rw [Selection.predicates, List.map_append, hids, List.map_map]
  refine congrArg (selection.idPredicates subject.id ++ ·) (List.map_congr_left fun column hmem => ?_)
  rw [Function.comp_apply, Predicate.respell, Operand.respell,
    hstatus column (Option.mem_toList.mp hmem)]

/-- **The query of renumbered clauses is the renumbered query.** -/
theorem assemble_respell (subject : Subject) (options : Options) (scopeId : String)
    (selection : Option Selection) (clauses : List Clause) :
    subject.assemble options scopeId selection
        (clauses.map (Clause.respell (callTags.renumber place))) =
      (subject.assemble options scopeId selection clauses).respell (callTags.renumber place) := by
  obtain ⟨hid, horderBy, -⟩ := @renumber_columns place subject
  obtain ⟨htable, halias, hjoins⟩ := @renumber_tables place subject
  have hadded : (clauses.map (Clause.respell (callTags.renumber place))).filterMap Clause.join =
      (clauses.filterMap Clause.join).map (LeftJoin.respell (callTags.renumber place)) := by
    rw [List.filterMap_map, List.map_filterMap]
    rfl
  have hconditions : (clauses.map (Clause.respell (callTags.renumber place))).map Clause.predicate =
      (clauses.map Clause.predicate).map (Predicate.respell (callTags.renumber place)) := by
    rw [List.map_map, List.map_map]
    rfl
  cases selection with
  | none =>
    simp only [assemble, Query.respell, hadded, hconditions, List.map_append, hid, horderBy, htable,
      halias, hjoins, renumber_scope, List.length_map, List.map_nil]
  | some selection =>
    simp only [assemble, Query.respell, hadded, hconditions, List.map_append, hid, horderBy, htable,
      halias, hjoins, renumber_scope, renumber_selection, List.length_map]

/-- **Compiling a padded list is compiling the list and renumbering**, with the same errors. -/
theorem compile_pads (h : Pads place 0 0 filters padded) (subject : Subject) (options : Options)
    (scopeId : String) (selection : Option Selection) :
    subject.compile options scopeId padded selection =
      (subject.compile options scopeId filters selection).map
        (Query.respell (callTags.renumber place)) := by
  rw [compile, compile, clausesFrom_pads h]
  cases subject.clausesFrom options 0 filters with
  | error e => rfl
  | ok clauses => exact congrArg Except.ok (assemble_respell subject options scopeId selection clauses)

/-! ### Where no tag filter moves -/

/-- What a filter adds depends on its position only if it is a tag filter. -/
theorem clause?_of_not_isTagFilter {filter : Filter} (h : subject.isTagFilter filter = false)
    (position other : Nat) :
    subject.clause? options position filter = subject.clause? options other filter := by
  unfold clause?
  cases hvalue : filter.specified? with
  | none => rfl
  | some value =>
    cases hfield : subject.field? filter.field with
    | some field => rfl
    | none =>
      have htags : subject.tags = none := by
        simpa [isTagFilter, hvalue, hfield] using h
      simp only [htags, Option.map_none]

/-- A padded list in which every tag filter keeps its position adds what the list adds. -/
theorem clausesFrom_pads_of_keeps (h : Pads place position moved filters padded)
    (hkeeps : ∀ i filter, filters[i]? = some filter → subject.isTagFilter filter = true →
      place (position + i) = position + i) :
    subject.clausesFrom options moved padded = subject.clausesFrom options position filters := by
  induction h with
  | nil => rfl
  | @keep position moved filter filters padded hplace _ ih =>
    have hothers := ih fun i later hlater => by
      rw [Nat.add_right_comm, Nat.add_assoc]
      exact hkeeps (i + 1) later hlater
    have hclause : subject.clause? options moved filter =
        subject.clause? options position filter := by
      cases htag : subject.isTagFilter filter with
      | false => exact clause?_of_not_isTagFilter htag _ _
      | true =>
        rw [← hplace]
        exact congrArg (subject.clause? options · filter) (hkeeps 0 filter rfl htag)
    rw [clausesFrom, clausesFrom, hothers, hclause]
  | @insert position moved filter filters padded hnone _ ih =>
    rw [clausesFrom, ih hkeeps, clause?, hnone]
    cases subject.clausesFrom options position filters <;> rfl

/-! ### What is left of filters without a value -/

/-- A padded list binds what the list binds. -/
theorem expectedParams_pads (h : Pads place 0 0 filters padded) (subject : Subject)
    (options : Options) (scopeId : String) (selection : Option Selection)
    (projection : Projection) :
    subject.expectedParams options scopeId padded selection projection =
      subject.expectedParams options scopeId filters selection projection := by
  have htags : padded.filter subject.isTagFilter = filters.filter subject.isTagFilter :=
    h.filter_eq fun filter hnone => by rw [isTagFilter, hnone]; rfl
  have happlied : padded.filter subject.isApplied = filters.filter subject.isApplied :=
    h.filter_eq fun filter hnone => by rw [isApplied, hnone]; rfl
  simp only [expectedParams, htags, happlied]

/-- **Filters without a value vanish up to the numbers of aliases.** Wherever they are put into a
list of filters, whatever their fields and comparators are, the list compiles exactly if it did
before, and fails with the same error if it did not. Its query binds the same parameters and has
the same number of tag joins, and in its text each alias of a tag join has the number of the place
of its filter. If no tag filter moves, it is the same query. -/
theorem unspecified_vanish (h : Pads place 0 0 filters padded) (subject : Subject)
    (options : Options) (scopeId : String) (selection : Option Selection) :
    (∀ error, subject.compile options scopeId padded selection = .error error ↔
        subject.compile options scopeId filters selection = .error error) ∧
      (∀ query, subject.compile options scopeId filters selection = .ok query →
        ∃ other, subject.compile options scopeId padded selection = .ok other ∧
          ∀ dialect projection,
            (Statement.select other dialect projection).params =
                (Statement.select query dialect projection).params ∧
              (Statement.select other dialect projection).tagJoins =
                (Statement.select query dialect projection).tagJoins ∧
              (Statement.select other dialect projection).sql =
                respell (callTags.renumber place)
                  (Statement.select query dialect projection).sql) ∧
      ((∀ i filter, filters[i]? = some filter → subject.isTagFilter filter = true →
          place i = i) →
        subject.compile options scopeId padded selection =
          subject.compile options scopeId filters selection) := by
  have hcompile := compile_pads h subject options scopeId selection
  refine ⟨fun error => ?_, fun query hquery => ?_, fun hkeeps => ?_⟩
  · rw [hcompile]
    cases subject.compile options scopeId filters selection with
    | error e => exact Iff.rfl
    | ok query => exact ⟨nofun, nofun⟩
  · rw [hquery] at hcompile
    refine ⟨_, hcompile, fun dialect projection => ⟨?_, rfl, ?_⟩⟩
    · rw [Statement.params, Statement.params, Statement.pieces, Statement.pieces,
        params_compile hcompile, params_compile hquery, expectedParams_pads h]
    · obtain ⟨clauses, hclauses, rfl⟩ := compile_eq_ok_iff.mp hquery
      exact (hclauses.legible scopeId selection).sql_respell (sparesKeywords_renumber place)
        dialect projection
  · have hclauses := @clausesFrom_pads_of_keeps subject options place 0 0 filters padded h
      fun i filter => by rw [Nat.zero_add]; exact hkeeps i filter
    rw [compile, compile, hclauses]

/-- A filter on a tag moves by one behind a filter without a value, although nothing knows the
comparator of that one, and so does the number in its alias. -/
theorem unspecified_vanish_before_tag : ∃ query other,
    loggedCalls.compile {} "p" [⟨"env", "=", some "prod"⟩] none = .ok query ∧
      loggedCalls.compile {} "p" [⟨"cost", "<", some ""⟩, ⟨"env", "=", some "prod"⟩] none =
        .ok other ∧
      (Statement.select other .sqlite .count).params =
        (Statement.select query .sqlite .count).params ∧
      (Statement.select other .sqlite .count).sql =
        respell (callTags.renumber (· + 1)) (Statement.select query .sqlite .count).sql ∧
      callTags.renumber (· + 1) "lct0" = "lct1" := by
  have hpads : Pads (· + 1) 0 0 [⟨"env", "=", some "prod"⟩]
      [⟨"cost", "<", some ""⟩, ⟨"env", "=", some "prod"⟩] := .insert rfl (.keep rfl .nil)
  obtain ⟨-, hquery, -⟩ := unspecified_vanish hpads loggedCalls {} "p" none
  obtain ⟨other, hother, hsame⟩ := hquery _ rfl
  obtain ⟨hparams, -, hsql⟩ := hsame .sqlite .count
  exact ⟨_, other, rfl, hother, hparams, hsql, TagTable.renumber_aliasAt 0⟩

end Subject

end LogFilter
