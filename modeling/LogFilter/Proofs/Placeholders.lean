import LogFilter.Proofs.ByteOrder
import LogFilter.Proofs.QueryShape
import LogFilter.Proofs.WrittenText

/-!
# Placeholders and Parameters

A placeholder is read off a text as a mark with all digits after it. In the text of a compiled
query the marks are those of the places of values and nothing else, since its words have none,
and a number ends where its digits end, since no place is followed by a digit. The placeholders
are therefore the numbers from one on, in order, as many as there are parameters.

The parameters themselves come in the order in which the text is read, which is not the order of
the request: the names of tags stand in joins, and these come before the scope and all values.

## Main definitions

* `placeholdersOf`: the placeholders in a text, from left to right.
* `Clear`: glyphs whose placeholders can be told from their words.
* `Subject.expectedParams`: what a request binds, in order.

## Main results

* `placeholdersOf_written`: the placeholders of clear glyphs are numbered from the left.
* `Query.Legible.clear`: the glyphs of a legible query are clear.
* `Subject.params_compile`: the parameters of a compiled query.
* `Subject.placeholders_compile`: placeholders and parameters of a compiled query correspond.
-/

namespace LogFilter.Sql

/-! ### Reading placeholders -/

/-- Whether a character begins a placeholder. -/
def isMark (c : Char) : Bool := c == '?' || c == '$'

/-- The **placeholders in a text**, from left to right: every mark with all digits after it. -/
def placeholdersOf : List Char → List (List Char)
  | [] => []
  | c :: rest =>
      if isMark c then (c :: rest.takeWhile Char.isDigit) :: placeholdersOf rest
      else placeholdersOf rest

/-- The mark of a dialect's placeholders. -/
def Dialect.mark : Dialect → Char
  | .postgres => '$'
  | .sqlite => '?'

/-- A placeholder is a mark with a number. -/
theorem Dialect.toList_placeholder (dialect : Dialect) (number : Nat) :
    (dialect.placeholder number).toList = dialect.mark :: number.repr.toList := by
  cases dialect <;> simp [placeholder, mark]

/-- Numbers consist of digits. -/
theorem isDigit_of_mem_repr {number : Nat} {c : Char} (h : c ∈ number.repr.toList) :
    c.isDigit = true := by
  rw [Nat.toList_repr] at h
  exact Nat.isDigit_of_mem_toDigits (by decide) (by decide) h

/-- There is no mark among letters and digits. -/
theorem isMark_of_isAlphanum {c : Char} (h : c.isAlphanum = true) : isMark c = false := by
  refine Bool.eq_false_iff.mpr fun hmark => ?_
  simp only [isMark, Bool.or_eq_true, beq_iff_eq] at hmark
  rcases hmark with rfl | rfl
  · exact absurd h (by decide)
  · exact absurd h (by decide)

/-- Digits hold no placeholders. -/
theorem placeholdersOf_digits_append {digits : List Char} (h : ∀ c ∈ digits, c.isDigit = true)
    (rest : List Char) : placeholdersOf (digits ++ rest) = placeholdersOf rest := by
  induction digits with
  | nil => rfl
  | cons c digits ih =>
    have hc : isMark c = false :=
      isMark_of_isAlphanum (by rw [Char.isAlphanum, h c List.mem_cons_self, Bool.or_true])
    rw [List.cons_append, placeholdersOf, hc]
    exact ih fun d hd => h d (List.mem_cons_of_mem _ hd)

/-- Whether glyphs do not begin with a digit. -/
def Undigited (glyphs : List Glyph) : Prop :=
  ∀ c rest, glyphs = .char c :: rest → c.isDigit = false

/-- **Clear** glyphs: no character is a mark, and no digit follows the place of a value. -/
inductive Clear : List Glyph → Prop
  | nil : Clear []
  | char {c : Char} {rest : List Glyph} : isMark c = false → Clear rest → Clear (.char c :: rest)
  | value {content : Scalar} {rest : List Glyph} :
      Undigited rest → Clear rest → Clear (.value content :: rest)

/-- What is written after a place begins with no digit. -/
theorem takeWhile_isDigit_written {glyphs : List Glyph} (h : Undigited glyphs)
    (dialect : Dialect) (next : Nat) :
    (Glyph.written dialect next glyphs).takeWhile Char.isDigit = [] := by
  cases glyphs with
  | nil => rfl
  | cons glyph rest =>
    cases glyph with
    | char c => exact List.takeWhile_cons_of_neg (by rw [h c rest rfl]; exact Bool.false_ne_true)
    | value content =>
      rw [Glyph.written, dialect.toList_placeholder, List.cons_append]
      exact List.takeWhile_cons_of_neg (by cases dialect <;> decide)

/-- **The placeholders of clear glyphs are numbered from the left**, each number once. -/
theorem placeholdersOf_written (dialect : Dialect) {glyphs : List Glyph} (h : Clear glyphs)
    (next : Nat) : placeholdersOf (Glyph.written dialect next glyphs) =
      (List.range' next (Glyph.values glyphs).length).map fun number =>
        (dialect.placeholder number).toList := by
  induction h generalizing next with
  | nil => rfl
  | char hmark _ ih =>
    rw [Glyph.written, placeholdersOf, hmark]
    exact ih next
  | @value content rest hnext _ ih =>
    -- All digits after the mark are those of the number, because the next glyph is none.
    have hdigits : ∀ c ∈ next.repr.toList, c.isDigit = true := fun c => isDigit_of_mem_repr
    have hmark : isMark dialect.mark = true := by cases dialect <;> rfl
    rw [Glyph.written, dialect.toList_placeholder, List.cons_append, placeholdersOf, hmark,
      if_pos rfl, placeholdersOf_digits_append hdigits, List.takeWhile_append_of_pos hdigits,
      takeWhile_isDigit_written hnext, List.append_nil, ih, Glyph.values, List.length_cons,
      List.range'_succ, List.map_cons, dialect.toList_placeholder]

/-! ### The glyphs of a legible query are clear -/

/-- Words without marks keep what follows clear. -/
theorem clear_letters {words : String} (h : words.toList.all (fun c => !isMark c) = true)
    {rest : List Glyph} (hrest : Clear rest) : Clear (letters words ++ rest) := by
  have hchars {cs : List Char} (hcs : cs.all (fun c => !isMark c) = true) :
      Clear (cs.map .char ++ rest) := by
    induction cs with
    | nil => exact hrest
    | cons c cs ih =>
      obtain ⟨hc, hcs⟩ := Bool.and_eq_true_iff.mp hcs
      exact .char (Bool.not_eq_true' _ ▸ hc) (ih hcs)
  exact hchars h

/-- Words that do not begin with a digit. -/
theorem undigited_letters {words : String}
    (h : words.toList.head?.any (fun c => !c.isDigit) = true) (rest : List Glyph) :
    Undigited (letters words ++ rest) :=
  kind_first_of_letters_append h rest

/-- Nothing begins with no digit. -/
theorem undigited_nil : Undigited [] := nofun

/-- A legible name keeps what follows clear. -/
theorem LegibleName.clear {name : String} (h : LegibleName name) {rest : List Glyph}
    (hrest : Clear rest) : Clear (letters name ++ rest) := by
  refine clear_letters (List.all_eq_true.mpr fun c hc => ?_) hrest
  rw [isMark_of_isAlphanum (h c hc)]
  rfl

variable {dialect : Dialect} {rest : List Glyph}

/-- So does a legible column. -/
theorem Column.Legible.clear {column : Column} (h : column.Legible) (hrest : Clear rest) :
    Clear (letters column.qualified ++ rest) := by
  simp only [qualified, letters_append, List.append_assoc]
  exact h.tableAlias.1.clear (clear_letters rfl (h.name.clear (clear_letters rfl hrest)))

/-- So does an operand. -/
theorem clear_operand {operand : Operand} (h : operand.source.Legible) (hrest : Clear rest) :
    Clear (operand.piece.glyphs dialect ++ rest) := by
  cases operand with
  | column source => exact h.clear hrest
  | text source =>
    cases dialect with
    | postgres =>
      simp only [Operand.piece, Piece.glyphs, Dialect.textCast, letters_append, List.append_assoc]
      exact h.clear (clear_letters rfl hrest)
    | sqlite =>
      simp only [Operand.piece, Piece.glyphs, Dialect.textCast, letters_append, List.append_assoc]
      exact clear_letters rfl (h.clear (clear_letters rfl hrest))

/-- Items that are clear before what is clear and does not begin with a digit are so one after
the other, each behind words of that kind. -/
theorem clear_flatMap {α : Type} {items : List α} {words : String} {write : α → List Glyph}
    (hwords : words.toList.all (fun c => !isMark c) = true)
    (hfirst : words.toList.head?.any (fun c => !c.isDigit) = true)
    (hwrite : ∀ item ∈ items, ∀ {rest}, Clear rest → Undigited rest → Clear (write item ++ rest))
    (hrest : Clear rest) (hnext : Undigited rest) :
    Clear (items.flatMap (fun item => letters words ++ write item) ++ rest) ∧
      Undigited (items.flatMap (fun item => letters words ++ write item) ++ rest) := by
  induction items with
  | nil => exact ⟨hrest, hnext⟩
  | cons item items ih =>
    obtain ⟨hclear, hundigited⟩ := ih fun later hmem => hwrite later (List.mem_cons_of_mem _ hmem)
    simp only [List.flatMap_cons, List.append_assoc] at hclear hundigited ⊢
    have hitem := hwrite item List.mem_cons_self hclear hundigited
    exact ⟨clear_letters hwords hitem, undigited_letters hfirst _⟩

/-- A pattern is clear before what does not begin with a digit. -/
theorem clear_pattern (pattern : LikePattern) (hrest : Clear rest) (hnext : Undigited rest) :
    Clear (Fragment.glyphs dialect pattern.pieces ++ rest) := by
  rw [Fragment.glyphs_pattern]
  cases pattern.escaped with
  | true => exact .value (undigited_letters rfl rest) (clear_letters rfl hrest)
  | false => exact .value hnext hrest

/-- A list of values is clear. -/
theorem clear_bindList (first : Scalar) (others : List Scalar) (hrest : Clear rest) :
    Clear (Fragment.glyphs dialect (bindList (first :: others)) ++ rest) := by
  have hclose : Clear (letters ")" ++ rest) := clear_letters rfl hrest
  have hothers : _ ∧ Undigited
      (others.flatMap (fun value => letters ", " ++ [.value value]) ++ (letters ")" ++ rest)) :=
    clear_flatMap rfl rfl (fun value _ _ hrest hnext => .value hnext hrest) hclose
      (undigited_letters rfl rest)
  rw [Fragment.glyphs_bindList_cons, List.append_assoc, List.append_assoc]
  exact clear_letters rfl (.value hothers.2 hothers.1)

/-- **A legible condition is clear** before what does not begin with a digit. -/
theorem Predicate.Legible.clear {predicate : Predicate} (h : predicate.Legible)
    (hrest : Clear rest) (hnext : Undigited rest) :
    Clear (Fragment.glyphs dialect predicate.pieces ++ rest) := by
  cases predicate with
  | eq operand value | distinctFrom operand value =>
    have hoperand := h.columns operand.source (List.mem_singleton_self _)
    simp only [pieces, Fragment.glyphs_cons, List.append_assoc]
    exact clear_operand hoperand (clear_letters rfl (.value hnext hrest))
  | like operand pattern =>
    have hoperand := h.columns operand.source (List.mem_singleton_self _)
    simp only [pieces, Fragment.glyphs_cons, List.append_assoc]
    exact clear_operand hoperand (clear_letters rfl (clear_pattern pattern hrest hnext))
  | notLikeOrNull operand pattern =>
    have hoperand := h.columns operand.source (List.mem_singleton_self _)
    simp only [pieces, Fragment.glyphs_cons, Fragment.glyphs_append, List.cons_append,
      List.append_assoc]
    refine clear_letters rfl (clear_operand hoperand (clear_letters rfl ?_))
    refine clear_pattern pattern (clear_letters rfl ?_) (undigited_letters rfl _)
    exact clear_operand hoperand (clear_letters rfl hrest)
  | columnsEq left right =>
    simp only [pieces, Fragment.glyphs_cons, List.append_assoc]
    refine (h.columns left (List.mem_cons_self)).clear (clear_letters rfl ?_)
    exact (h.columns right (List.mem_cons_of_mem _ (List.mem_singleton_self _))).clear hrest
  | isIn operand values =>
    have hoperand := h.columns operand.source (List.mem_singleton_self _)
    cases values with
    | nil => exact absurd rfl (h.isIn operand)
    | cons first others =>
      simp only [pieces, Fragment.glyphs_cons, List.append_assoc]
      exact clear_operand hoperand (clear_letters rfl (clear_bindList first others hrest))
  | notIn operand values =>
    have hoperand := h.columns operand.source (List.mem_singleton_self _)
    cases values with
    | nil => exact absurd rfl (h.notIn operand)
    | cons first others =>
      simp only [pieces, Fragment.glyphs_cons, List.append_assoc]
      exact clear_operand hoperand (clear_letters rfl (clear_bindList first others hrest))
  | never =>
    simp only [pieces, Fragment.glyphs_cons, Fragment.glyphs_nil, List.append_nil]
    exact clear_letters rfl hrest

/-- A conjunction of legible conditions is clear before what does not begin with a digit. -/
theorem clear_conjunction {predicates : List Predicate} (hne : predicates ≠ [])
    (h : ∀ predicate ∈ predicates, predicate.Legible) (hrest : Clear rest)
    (hnext : Undigited rest) :
    Clear ((conjunction predicates).glyphs dialect ++ rest) := by
  obtain ⟨first, others, rfl⟩ := List.exists_cons_of_ne_nil hne
  obtain ⟨hfirst, hothers⟩ := List.forall_mem_cons.mp h
  have hbehind : Clear _ ∧ Undigited (others.flatMap (fun predicate =>
      letters " AND " ++ Fragment.glyphs dialect predicate.pieces) ++ rest) :=
    clear_flatMap rfl rfl (fun predicate hmem => (hothers predicate hmem).clear) hrest hnext
  rw [Fragment.glyphs_conjunction_cons, List.append_assoc]
  exact hfirst.clear hbehind.1 hbehind.2

/-- What follows the conditions of a legible query is clear and does not begin with a digit. -/
theorem Query.Legible.clear_tail {query : Query} (h : query.Legible) (projection : Projection) :
    Clear ((query.tail projection).glyphs dialect) ∧
      Undigited ((query.tail projection).glyphs dialect) := by
  have hordering {rest : List Glyph} (hrest : Clear rest) :
      Clear (letters query.ordering ++ rest) ∧ Undigited (letters query.ordering ++ rest) := by
    simp only [ordering, letters_append, List.append_assoc]
    refine ⟨clear_letters rfl ?_, undigited_letters rfl _⟩
    exact h.orderBy.clear (clear_letters rfl (h.id.clear hrest))
  cases projection with
  | count => exact ⟨.nil, undigited_nil⟩
  | ids => exact hordering .nil
  | page limit offset =>
    have hoffset : Clear (letters " OFFSET " ++ [.value (boundNumber offset)]) :=
      clear_letters rfl (.value undigited_nil .nil)
    exact hordering (clear_letters rfl (.value (undigited_letters rfl _) hoffset))

/-- **The glyphs of a legible query are clear.** -/
theorem Query.Legible.clear {query : Query} (h : query.Legible) (projection : Projection) :
    Clear ((query.pieces projection).glyphs dialect) := by
  obtain ⟨htail, hnext⟩ := h.clear_tail projection
  have hwhere : Clear (letters " WHERE " ++ ((conjunction query.predicates).glyphs dialect ++
      (query.tail projection).glyphs dialect)) :=
    clear_letters rfl (clear_conjunction h.ne_nil h.predicates htail hnext)
  have hjoins : Clear (query.joins.flatMap (fun join => Fragment.glyphs dialect join.pieces) ++
      (letters " WHERE " ++ ((conjunction query.predicates).glyphs dialect ++
        (query.tail projection).glyphs dialect))) := by
    simp only [Fragment.glyphs_join]
    refine (clear_flatMap rfl rfl (fun join hmem rest hrest hnext => ?_) hwhere
      (undigited_letters rfl _)).1
    obtain ⟨htable, halias, hne, hon⟩ := h.joins join hmem
    have hconditions : Clear ((conjunction join.on).glyphs dialect ++ rest) :=
      clear_conjunction hne hon hrest hnext
    simp only [List.append_assoc]
    exact htable.clear (clear_letters rfl (halias.1.clear (clear_letters rfl hconditions)))
  have hselected {rest : List Glyph} (hrest : Clear rest) :
      Clear (letters (query.selected projection) ++ rest) := by
    cases projection with
    | count =>
      rw [selected]
      exact clear_letters rfl hrest
    | ids | page => exact h.id.clear hrest
  rw [glyphs_pieces]
  refine clear_letters rfl (hselected (clear_letters rfl (h.table.clear (clear_letters rfl ?_))))
  exact h.tableAlias.1.clear hjoins

end LogFilter.Sql

namespace LogFilter

open Sql

/-! ### What a request binds -/

/-- Whether a filter searches for its value rather than compares it. -/
def Filter.searches (filter : Filter) : Bool :=
  filter.comparator == "CONTAINS" || filter.comparator == "NOT_CONTAINS"

/-- The text that a filter binds: its value, or the pattern of its value. -/
def Filter.boundText (wildcards : Wildcards) (filter : Filter) : Scalar :=
  let value := filter.value.getD ""
  .text (if filter.searches then (wildcards.containing value).pattern else value)

namespace Subject

/-- Whether a filter is **on a tag**: it has a value and names no known field, where there are
tags. -/
def isTagFilter (subject : Subject) (filter : Filter) : Bool :=
  filter.specified?.isSome && (subject.field? filter.field).isNone && subject.tags.isSome

/-- Whether a filter is **applied**: it has a value and names a known field or a tag. -/
def isApplied (subject : Subject) (filter : Filter) : Bool :=
  filter.specified?.isSome && ((subject.field? filter.field).isSome || subject.tags.isSome)

/-- What is bound for a scope: its id, and that a dataset entry is not outdated. -/
def scopeParams (scopeId : String) : Subject → List Scalar
  | loggedCalls => [.text scopeId]
  | datasetEntries => [.text scopeId, .boolean false]

/-- What is bound for a selection: its governing ids, and the status of a success where records
have one. -/
def selectionParams (subject : Subject) (options : Options) : Option Selection → List Scalar
  | none => []
  | some selection => selection.governing.toList.map .text ++
      subject.status.toList.map fun _ => .integer options.successStatus

/-- **What a request binds**, in order. -/
def expectedParams (subject : Subject) (options : Options) (scopeId : String)
    (filters : List Filter) (selection : Option Selection) (projection : Projection) :
    List Scalar :=
  (filters.filter subject.isTagFilter).map (fun filter => .text filter.field) ++
    (subject.scopeParams scopeId ++
      ((filters.filter subject.isApplied).map (Filter.boundText options.wildcards) ++
        (subject.selectionParams options selection ++
          match projection with
          | .ids | .count => []
          | .page limit offset => [boundNumber limit, boundNumber offset])))

variable {subject : Subject} {options : Options}

/-- An operand binds nothing. -/
theorem params_operand_cons (operand : Operand) (rest : Fragment) :
    Fragment.params (operand.piece :: rest) = rest.params := by
  cases operand <;> rfl

/-- A pattern binds its text. -/
theorem params_pattern (pattern : LikePattern) :
    Fragment.params pattern.pieces = [.text pattern.pattern] := by
  cases hescaped : pattern.escaped <;> simp [LikePattern.pieces, hescaped, Fragment.params]

/-- The condition of a filter binds the text of the filter. -/
theorem params_predicate {filter : Filter} {value : String} {comparator : Comparator}
    (hvalue : filter.specified? = some value)
    (htoken : Comparator.ofToken filter.comparator = .ok comparator) (wildcards : Wildcards)
    (operand : Operand) :
    Fragment.params (comparator.predicate wildcards value operand).pieces =
      [filter.boundText wildcards] := by
  have htext : filter.value.getD "" = value := by
    have hpresent := (Option.filter_eq_some_iff.mp hvalue).1
    rw [hpresent, Option.getD_some]
  have hsearches : filter.searches = (comparator == .contains || comparator == .notContains) := by
    rw [Filter.searches, ← Comparator.ofToken_eq_ok_iff.mp htoken]
    cases comparator <;> decide
  rw [Filter.boundText, htext, hsearches]
  cases comparator <;>
    simp [Comparator.predicate, Predicate.pieces, params_operand_cons, params_pattern,
      Fragment.params, Fragment.params_append]

/-- A tag join binds the name of the tag. -/
theorem params_joinAt (tags : TagTable) (parent : Column) (position : Nat) (name : String) :
    Fragment.params (tags.joinAt parent position name).pieces = [.text name] := rfl

/-- **What filters bind**: the names of tags in their joins, and their texts in their
conditions. -/
theorem AddsAll.params {position : Nat} {filters : List Filter} {clauses : List Clause}
    (h : subject.AddsAll options position filters clauses) :
    (clauses.filterMap Clause.join).flatMap (fun join => Fragment.params join.pieces) =
        (filters.filter subject.isTagFilter).map (fun filter => .text filter.field) ∧
      clauses.flatMap (fun clause => Fragment.params clause.predicate.pieces) =
        (filters.filter subject.isApplied).map (Filter.boundText options.wildcards) := by
  induction h with
  | nil => exact ⟨rfl, rfl⟩
  | cons hfirst _ ih =>
    obtain ⟨hjoins, hpredicates⟩ := ih
    rw [List.filterMap_append, List.flatMap_append, List.flatMap_append, hjoins, hpredicates,
      List.filter_cons, List.filter_cons]
    cases hfirst with
    | nothing hnone => simp [isTagFilter, isApplied, hnone]
    | column hvalue htoken hfield =>
      simp [isTagFilter, isApplied, hvalue, hfield, params_predicate hvalue htoken]
    | tag hvalue htoken hfield _ htags =>
      simp [isTagFilter, isApplied, hvalue, hfield, htags, TagTable.plan, params_joinAt,
        params_predicate hvalue htoken]
    | skipped hvalue _ hfield _ hnone => simp [isTagFilter, isApplied, hfield, hnone]

/-- A list of values that are excluded binds them. -/
theorem params_notIn (operand : Operand) (values : List Scalar) :
    Fragment.params (Predicate.notIn operand values).pieces = values := by
  cases values with
  | nil => rfl
  | cons value rest =>
    have hsame := Predicate.params_isIn operand (value :: rest)
    simp only [Predicate.pieces, params_operand_cons, Fragment.params] at hsame ⊢
    exact hsame

/-- A selection binds its governing ids, and the status if records have one. -/
theorem params_selection (selection : Selection) (id : Column) (status : Option Column)
    (successStatus : Int) :
    (selection.predicates id status successStatus).flatMap (fun predicate =>
        Fragment.params predicate.pieces) =
      selection.governing.toList.map .text ++
        status.toList.map fun _ => .integer successStatus := by
  have hempty {ids : NameSet} (h : ids.isEmpty = true) : ids.toList = [] :=
    List.isEmpty_iff.mp h
  have hstatus : (status.toList.map fun column =>
      Predicate.eq (.column column) (.integer successStatus)).flatMap (fun predicate =>
        Fragment.params predicate.pieces) = status.toList.map fun _ => .integer successStatus := by
    cases status <;> rfl
  rw [Selection.predicates, List.flatMap_append, hstatus]
  congr 1
  unfold Selection.idPredicates Selection.governing
  split <;> split
  · next hnone => rw [hempty hnone]; rfl
  · rw [List.flatMap_singleton, params_notIn]; rfl
  · next hnone => rw [hempty hnone]; rfl
  · rw [List.flatMap_singleton, Predicate.params_isIn]; rfl

/-- **The parameters of a compiled query** are what the request binds, in order. -/
theorem params_compile {scopeId : String} {filters : List Filter} {selection : Option Selection}
    {query : Query} (hquery : subject.compile options scopeId filters selection = .ok query)
    (projection : Projection) : (query.pieces projection).params =
      subject.expectedParams options scopeId filters selection projection := by
  obtain ⟨clauses, hclauses, rfl⟩ := compile_eq_ok_iff.mp hquery
  obtain ⟨hjoins, hpredicates⟩ := hclauses.params
  have hfixed : subject.joins.flatMap (fun join => Fragment.params join.pieces) = [] := by
    cases subject <;> rfl
  have hscope : (subject.scope scopeId).flatMap (fun predicate =>
      Fragment.params predicate.pieces) = subject.scopeParams scopeId := by
    cases subject <;> rfl
  have hflat (joins : List LeftJoin) : Fragment.params (joins.flatMap LeftJoin.pieces) =
      joins.flatMap fun join => Fragment.params join.pieces := by
    induction joins with
    | nil => rfl
    | cons join joins ih => rw [List.flatMap_cons, Fragment.params_append, ih, List.flatMap_cons]
  have hbody : (subject.assemble options scopeId selection clauses).body.params =
      (filters.filter subject.isTagFilter).map (fun filter => .text filter.field) ++
        (subject.scopeParams scopeId ++
          ((filters.filter subject.isApplied).map (Filter.boundText options.wildcards) ++
            subject.selectionParams options selection)) := by
    rw [Query.body, Fragment.params_append, hflat, Fragment.params, Fragment.params_conjunction]
    simp only [assemble, List.flatMap_append, List.flatMap_map, hfixed, hjoins, hscope,
      hpredicates, List.nil_append, List.append_assoc]
    congr 3
    cases selection with
    | none => rfl
    | some selection => exact params_selection selection _ _ _
  rw [Query.pieces, List.cons_append, Fragment.params, Fragment.params_append, hbody]
  cases projection <;> simp only [expectedParams, List.append_assoc] <;> rfl

/-- **Placeholders and parameters correspond.** For every query that compiles, in both dialects
and under every projection, the placeholders in the text are the numbers from one on, from left to
right, each once and as many as there are parameters, and no other mark is in the text. The
parameters are the names of the tags that filters are on, the scope, the values or patterns of the
filters that are applied, the governing ids in ascending order of their bytes, the status of a
success, and the bounds of the page. -/
theorem placeholders_compile {scopeId : String} {filters : List Filter}
    {selection : Option Selection} {query : Query}
    (hquery : subject.compile options scopeId filters selection = .ok query) (dialect : Dialect)
    (projection : Projection) :
    let statement := Statement.select query dialect projection
    placeholdersOf statement.sql.toList =
        ((List.range' 1 statement.params.length).map fun number =>
          (dialect.placeholder number).toList) ∧
      statement.params = subject.expectedParams options scopeId filters selection projection ∧
      ∀ choice ∈ selection, (choice.governing.toList.map Text.bytes).Pairwise (· < ·) := by
  have hparams := params_compile hquery projection
  obtain ⟨clauses, hclauses, rfl⟩ := compile_eq_ok_iff.mp hquery
  refine ⟨?_, hparams, fun choice _ => ?_⟩
  · have hclear : Clear (Fragment.glyphs dialect _) :=
      (hclauses.legible scopeId selection).clear projection
    rw [Statement.sql, Fragment.toList_text, Statement.params, Statement.dialect,
      Statement.pieces, placeholdersOf_written dialect hclear, Fragment.values_glyphs]
  · refine List.pairwise_map.mpr (choice.governing.increasing.imp fun h => ?_)
    exact Text.bytes_lt_bytes_iff.mpr h

/-- The name of a tag is bound before the scope, though its filter comes after one on a column,
and the bounds of the page come last. -/
theorem placeholders_tagFilter : ∃ query,
    loggedCalls.compile {} "p"
        [⟨"model", "CONTAINS", some "m"⟩, ⟨"env", "=", some "?1"⟩, ⟨"model", "=", none⟩]
        (some ⟨false, ⟨["a", "b"], by decide⟩, .empty⟩) = .ok query ∧
      (Statement.select query .postgres (.page 10 0)).params =
        [.text "env", .text "p", .text "%m%", .text "?1", .text "a", .text "b", .integer 200,
          .integer 10, .integer 0] ∧
      placeholdersOf (Statement.select query .postgres (.page 10 0)).sql.toList =
        ["$1", "$2", "$3", "$4", "$5", "$6", "$7", "$8", "$9"].map String.toList := by
  refine ⟨_, rfl, ?_⟩
  obtain ⟨hnumbers, hparams, -⟩ := placeholders_compile (rfl : loggedCalls.compile {} "p"
    [⟨"model", "CONTAINS", some "m"⟩, ⟨"env", "=", some "?1"⟩, ⟨"model", "=", none⟩]
    (some ⟨false, ⟨["a", "b"], by decide⟩, .empty⟩) = .ok _) .postgres (.page 10 0)
  have hexpected := hparams.trans (by decide : _ = [Scalar.text "env", .text "p", .text "%m%",
    .text "?1", .text "a", .text "b", .integer 200, .integer 10, .integer 0])
  rw [hexpected] at hnumbers
  exact ⟨hexpected, hnumbers⟩

end Subject

end LogFilter
