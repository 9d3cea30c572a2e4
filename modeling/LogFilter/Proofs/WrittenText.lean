import LogFilter.Proofs.CompiledQueries
import LogFilter.Proofs.QueryLimits

/-!
# Written Text

The text of a query is a list of characters in which some stretches are placeholders. What is
said about it here is said about glyphs: a glyph is a character or the place of a bound value,
so a list of glyphs holds both the words and the parameters of a query, and the text is written
from it by numbering the places from the left.

What a compilation writes is legible: its aliases begin with a lower-case letter, its names
consist of letters and digits, and no condition lists no values. All facts about the texts of
compiled queries are facts about legible queries.

## Main definitions

* `Glyph`, `Fragment.glyphs`, `Glyph.written`: the glyphs of a text, and the text of glyphs.
* `Column.Legible`, `Predicate.Legible`, `LeftJoin.Legible`, `Query.Legible`: how a compilation
  writes.

## Main results

* `Fragment.toList_text`: a text is written from its glyphs.
* `Fragment.values_glyphs`: the values in the glyphs are the parameters.
* `Subject.AddsAll.legible`: a compiled query is legible.
-/

namespace LogFilter.Sql

/-! ### Glyphs -/

/-- A **glyph**: a character, or the place of a bound value. -/
inductive Glyph
  | char (c : Char)
  | value (content : Scalar)
  deriving DecidableEq, Repr

/-- The glyphs of words. -/
def letters (words : String) : List Glyph :=
  words.toList.map .char

/-- The glyphs of a piece. -/
def Piece.glyphs (dialect : Dialect) : Piece → List Glyph
  | .words text => letters text
  | .asText column => letters (dialect.textCast column)
  | .bind value => [.value value]

/-- The glyphs of words, and of the place of a value. -/
@[simp] theorem Piece.glyphs_words (dialect : Dialect) (text : String) :
    (Piece.words text).glyphs dialect = letters text := rfl

/-- A value is one glyph. -/
@[simp] theorem Piece.glyphs_bind (dialect : Dialect) (value : Scalar) :
    (Piece.bind value).glyphs dialect = [.value value] := rfl

/-- The **glyphs** of a fragment. -/
def Fragment.glyphs (dialect : Dialect) (fragment : Fragment) : List Glyph :=
  fragment.flatMap (Piece.glyphs dialect)

namespace Glyph

/-- The values among glyphs, from the left. -/
def values : List Glyph → List Scalar
  | [] => []
  | .value content :: rest => content :: values rest
  | .char _ :: rest => values rest

/-- Glyphs as they are **written**, where the first placeholder has the number `next`. -/
def written (dialect : Dialect) : Nat → List Glyph → List Char
  | _, [] => []
  | next, .char c :: rest => c :: written dialect next rest
  | next, .value _ :: rest =>
      (dialect.placeholder next).toList ++ written dialect (next + 1) rest

/-- Words have no values. -/
theorem values_letters_append (words : String) (rest : List Glyph) :
    values (letters words ++ rest) = values rest := by
  have hchars (cs : List Char) : values (cs.map .char ++ rest) = values rest := by
    induction cs with
    | nil => rfl
    | cons c cs ih => exact ih
  exact hchars _

/-- Words are written as they are. -/
theorem written_letters_append (dialect : Dialect) (next : Nat) (words : String)
    (rest : List Glyph) :
    written dialect next (letters words ++ rest) = words.toList ++ written dialect next rest := by
  have hchars (cs : List Char) :
      written dialect next (cs.map .char ++ rest) = cs ++ written dialect next rest := by
    induction cs with
    | nil => rfl
    | cons c cs ih => exact congrArg (c :: ·) ih
  exact hchars _

end Glyph

/-- The glyphs of words one after the other. -/
@[simp] theorem letters_append (front back : String) :
    letters (front ++ back) = letters front ++ letters back := by
  simp [letters]

/-- Words that begin with no character of a kind, before anything. -/
theorem kind_first_of_letters_append {kind : Char → Bool} {words : String}
    (h : words.toList.head?.any (fun c => !kind c) = true) (rest : List Glyph) (c : Char)
    (tail : List Glyph) (hchar : letters words ++ rest = .char c :: tail) : kind c = false := by
  unfold letters at hchar
  cases hwords : words.toList with
  | nil => rw [hwords] at h; cases h
  | cons first cs =>
    rw [hwords] at h hchar
    cases hchar
    simpa using h

namespace Fragment

variable (dialect : Dialect)

/-- The glyphs of no pieces. -/
@[simp] theorem glyphs_nil : glyphs dialect [] = [] := rfl

/-- The glyphs of a piece before a fragment. -/
@[simp] theorem glyphs_cons (piece : Piece) (rest : Fragment) :
    glyphs dialect (piece :: rest) = piece.glyphs dialect ++ glyphs dialect rest := rfl

/-- The glyphs of fragments one after the other. -/
@[simp] theorem glyphs_append (front back : Fragment) :
    glyphs dialect (front ++ back) = glyphs dialect front ++ glyphs dialect back :=
  List.flatMap_append

/-- **The values in the glyphs of a fragment are its parameters.** -/
theorem values_glyphs (fragment : Fragment) :
    Glyph.values (fragment.glyphs dialect) = fragment.params := by
  induction fragment with
  | nil => rfl
  | cons piece rest ih =>
    cases piece with
    | words text => rw [glyphs_cons, Piece.glyphs, Glyph.values_letters_append, ih, params]
    | asText column => rw [glyphs_cons, Piece.glyphs, Glyph.values_letters_append, ih, params]
    | bind value => exact congrArg (value :: ·) ih

/-- **The text of a fragment is written from its glyphs.** -/
theorem toList_text (fragment : Fragment) :
    (fragment.text dialect).toList = Glyph.written dialect 1 (fragment.glyphs dialect) := by
  have hfrom (next : Nat) : (fragment.textsFrom dialect next).flatMap String.toList =
      Glyph.written dialect next (fragment.glyphs dialect) := by
    induction fragment generalizing next with
    | nil => rfl
    | cons piece rest ih =>
      cases piece with
      | words text | asText column =>
        rw [glyphs_cons, Piece.glyphs, Glyph.written_letters_append, ← ih]
        rfl
      | bind value =>
        rw [glyphs_cons, Piece.glyphs, List.singleton_append, Glyph.written, ← ih]
        rfl
  rw [← hfrom, text]
  simp

/-- The glyphs of fragments with separators: each but the first stands behind one. -/
theorem glyphs_separated_cons (separator : String) (first : Fragment) (rest : List Fragment) :
    glyphs dialect (separated separator (first :: rest)) =
      glyphs dialect first ++
        rest.flatMap fun fragment => letters separator ++ glyphs dialect fragment := by
  induction rest generalizing first with
  | nil => simp [separated]
  | cons next rest ih =>
    rw [separated, glyphs_append, glyphs_cons, ih, Piece.glyphs, List.flatMap_cons,
      List.append_assoc]

/-- The glyphs of a conjunction. -/
theorem glyphs_conjunction_cons (first : Predicate) (rest : List Predicate) :
    glyphs dialect (conjunction (first :: rest)) = glyphs dialect first.pieces ++
      rest.flatMap fun predicate => letters " AND " ++ glyphs dialect predicate.pieces := by
  rw [conjunction, List.map_cons, glyphs_separated_cons, List.flatMap_map]
  exact List.cons_ne_nil first rest

/-- The glyphs of a list of placeholders. -/
theorem glyphs_bindList_cons (first : Scalar) (rest : List Scalar) :
    glyphs dialect (bindList (first :: rest)) = letters "(" ++ .value first ::
      (rest.flatMap fun value => letters ", " ++ [.value value]) ++ letters ")" := by
  simp only [bindList, List.map_cons, glyphs_append, glyphs_cons, glyphs_separated_cons,
    List.flatMap_map, Piece.glyphs, glyphs_nil, List.append_nil, List.append_assoc,
    List.cons_append, List.nil_append]

/-- The glyphs of a pattern. -/
theorem glyphs_pattern (pattern : LikePattern) :
    glyphs dialect pattern.pieces = .value (.text pattern.pattern) ::
      if pattern.escaped then letters " ESCAPE '\\'" else [] := by
  cases hescaped : pattern.escaped <;> simp [LikePattern.pieces, hescaped, Piece.glyphs]

/-- The glyphs of a join. -/
theorem glyphs_join (join : LeftJoin) :
    glyphs dialect join.pieces = letters " LEFT JOIN \"" ++ (letters join.table ++
      (letters "\" AS " ++ (letters join.tableAlias ++ (letters " ON " ++
        glyphs dialect (conjunction join.on))))) := by
  simp only [LeftJoin.pieces, glyphs_cons, Piece.glyphs, letters_append, List.append_assoc]

end Fragment

/-- What is selected of the rows that match. -/
def Query.selected (query : Query) : Projection → String
  | .count => "COUNT(*)"
  | .ids | .page _ _ => query.id.qualified

/-- The glyphs of a query. -/
theorem Query.glyphs_pieces (dialect : Dialect) (query : Query) (projection : Projection) :
    (query.pieces projection).glyphs dialect = letters "SELECT " ++
      (letters (query.selected projection) ++ (letters " FROM \"" ++ (letters query.table ++
        (letters "\" AS " ++ (letters query.tableAlias ++
          (query.joins.flatMap (fun join => Fragment.glyphs dialect join.pieces) ++
            (letters " WHERE " ++ ((conjunction query.predicates).glyphs dialect ++
              (query.tail projection).glyphs dialect)))))))) := by
  have hjoins (joins : List LeftJoin) : Fragment.glyphs dialect (joins.flatMap LeftJoin.pieces) =
      joins.flatMap fun join => Fragment.glyphs dialect join.pieces := by
    rw [Fragment.glyphs, List.flatMap_assoc]
    rfl
  cases projection <;>
    simp only [pieces, head, body, selected, List.cons_append, Fragment.glyphs_cons,
      Fragment.glyphs_append, Piece.glyphs, hjoins, letters_append, List.append_assoc]

/-! ### Legible queries -/

/-- A name is **legible** if it consists of letters and digits. -/
def LegibleName (name : String) : Prop :=
  ∀ c ∈ name.toList, c.isAlphanum = true

/-- An alias is **legible** if it is a legible name that begins with a lower-case letter. -/
def LegibleAlias (name : String) : Prop :=
  LegibleName name ∧ ∃ c rest, name.toList = c :: rest ∧ c.isLower = true

/-- A **legible column**. -/
structure Column.Legible (column : Column) : Prop where
  tableAlias : LegibleAlias column.tableAlias
  name : LegibleName column.name

/-- A **legible condition**: its columns are legible, and if it lists values then there are
some. -/
structure Predicate.Legible (predicate : Predicate) : Prop where
  columns : ∀ column ∈ predicate.columns, column.Legible
  isIn : ∀ operand, predicate ≠ .isIn operand []
  notIn : ∀ operand, predicate ≠ .notIn operand []

/-- A **legible join**, which has a condition. -/
structure LeftJoin.Legible (join : LeftJoin) : Prop where
  table : LegibleName join.table
  tableAlias : LegibleAlias join.tableAlias
  ne_nil : join.on ≠ []
  on : ∀ predicate ∈ join.on, predicate.Legible

/-- A **legible query**, which has a condition. -/
structure Query.Legible (query : Query) : Prop where
  table : LegibleName query.table
  tableAlias : LegibleAlias query.tableAlias
  id : query.id.Legible
  orderBy : query.orderBy.Legible
  joins : ∀ join ∈ query.joins, join.Legible
  ne_nil : query.predicates ≠ []
  predicates : ∀ predicate ∈ query.predicates, predicate.Legible

/-- A name is legible if a test says so. -/
theorem legibleName_of_all {name : String} (h : name.toList.all Char.isAlphanum = true) :
    LegibleName name :=
  List.all_eq_true.mp h

/-- A legible name ends before every character that is neither a letter nor a digit. -/
theorem LegibleName.not_mem {name : String} (h : LegibleName name) (stop : Char)
    (hstop : stop.isAlphanum = false) : stop ∉ name.toList := by
  intro hmem
  rw [h stop hmem] at hstop
  cases hstop

/-- An alias is legible if two tests say so. -/
theorem legibleAlias_of_all {name : String} (h : name.toList.all Char.isAlphanum = true)
    (hfirst : name.toList.head?.any Char.isLower = true) : LegibleAlias name := by
  refine ⟨legibleName_of_all h, ?_⟩
  cases hname : name.toList with
  | nil => rw [hname] at hfirst; cases hfirst
  | cons c rest =>
    rw [hname] at hfirst
    exact ⟨c, rest, rfl, hfirst⟩

/-- A column is legible if three tests say so. -/
theorem Column.legible_of_all {column : Column}
    (hfirst : column.tableAlias.toList.head?.any Char.isLower = true)
    (halias : column.tableAlias.toList.all Char.isAlphanum = true)
    (hname : column.name.toList.all Char.isAlphanum = true) : column.Legible :=
  ⟨legibleAlias_of_all halias hfirst, legibleName_of_all hname⟩

/-- Equality with a value is legible on a legible column. -/
theorem Predicate.legible_eq {column : Column} (h : column.Legible) (value : Scalar) :
    (Predicate.eq (.column column) value).Legible :=
  ⟨List.forall_mem_singleton.mpr h, nofun, nofun⟩

/-- Equality of two legible columns is legible. -/
theorem Predicate.legible_columnsEq {left right : Column} (hleft : left.Legible)
    (hright : right.Legible) : (Predicate.columnsEq left right).Legible :=
  ⟨List.forall_mem_cons.mpr ⟨hleft, List.forall_mem_singleton.mpr hright⟩, nofun, nofun⟩

end LogFilter.Sql

namespace LogFilter

open Sql

/-! ### Compiled queries are legible -/

/-- The condition of a comparator is legible on a legible column. -/
theorem Comparator.legible_predicate (comparator : Comparator) (wildcards : Wildcards)
    (value : String) {operand : Operand} (h : operand.source.Legible) :
    (comparator.predicate wildcards value operand).Legible := by
  cases comparator <;> exact ⟨List.forall_mem_singleton.mpr h, nofun, nofun⟩

/-- The known fields are read from legible columns. -/
theorem KnownField.legible_column (field : KnownField) : field.column.Legible := by
  cases field <;> exact Column.legible_of_all rfl rfl rfl

/-- The id of logged calls is a legible column. -/
theorem legible_callId : Column.Legible ⟨"lc", "id"⟩ := Column.legible_of_all rfl rfl rfl

/-- The aliases of tag joins are legible: digits follow a legible stem. -/
theorem legibleAlias_aliasAt (position : Nat) : LegibleAlias (callTags.aliasAt position) := by
  have hchars : (callTags.aliasAt position).toList =
      'l' :: 'c' :: 't' :: position.repr.toList := by
    simp [TagTable.aliasAt, callTags]
  refine ⟨fun c hc => ?_, 'l', 'c' :: 't' :: position.repr.toList, hchars, rfl⟩
  rw [hchars] at hc
  simp only [List.mem_cons] at hc
  rcases hc with rfl | rfl | rfl | hdigit
  · rfl
  · rfl
  · rfl
  · rw [Nat.toList_repr] at hdigit
    have hc := Nat.isDigit_of_mem_toDigits (by decide) (by decide) hdigit
    simp [Char.isAlphanum, hc]

/-- The columns of a tag join are legible. -/
theorem legible_tagColumn (position : Nat) {name : String}
    (h : name.toList.all Char.isAlphanum = true) :
    Column.Legible ⟨callTags.aliasAt position, name⟩ :=
  ⟨legibleAlias_aliasAt position, legibleName_of_all h⟩

/-- A tag join is legible, whatever the name of the tag. -/
theorem legible_tagJoin (position : Nat) (name : String) : (tagJoin position name).Legible where
  table := legibleName_of_all (rfl : "LoggedCallTag".toList.all Char.isAlphanum = true)
  tableAlias := legibleAlias_aliasAt position
  ne_nil := nofun
  on := List.forall_mem_cons.mpr
    ⟨Predicate.legible_columnsEq legible_callId (legible_tagColumn position rfl),
      List.forall_mem_singleton.mpr (Predicate.legible_eq (legible_tagColumn position rfl) _)⟩

/-- The join of logged calls to their responses is legible. -/
theorem legible_responseJoin : responseJoin.Legible where
  table := legibleName_of_all rfl
  tableAlias := legibleAlias_of_all rfl rfl
  ne_nil := nofun
  on := List.forall_mem_singleton.mpr
    (Predicate.legible_columnsEq legible_callId (Column.legible_of_all rfl rfl rfl))

/-- The conditions of a selection are legible: no list of ids is empty. -/
theorem Selection.legible_predicates (selection : Selection) {id : Column} (hid : id.Legible)
    {status : Option Column} (hstatus : ∀ column ∈ status, column.Legible) (successStatus : Int) :
    ∀ predicate ∈ selection.predicates id status successStatus, predicate.Legible := by
  have hlist {ids : NameSet} (h : ids.isEmpty = false) : boundIds ids ≠ [] := by
    intro hnone
    rw [NameSet.isEmpty, List.map_eq_nil_iff.mp hnone] at h
    cases h
  intro predicate hpredicate
  rcases List.mem_append.mp hpredicate with hmem | hmem
  · unfold idPredicates at hmem
    split at hmem <;> split at hmem
    · cases hmem
    · next hnonempty =>
      obtain rfl := List.mem_singleton.mp hmem
      refine ⟨List.forall_mem_singleton.mpr hid, nofun, fun operand hsame => ?_⟩
      exact hlist (Bool.eq_false_iff.mpr hnonempty) (Predicate.notIn.inj hsame).2
    · obtain rfl := List.mem_singleton.mp hmem
      exact ⟨nofun, nofun, nofun⟩
    · next hnonempty =>
      obtain rfl := List.mem_singleton.mp hmem
      refine ⟨List.forall_mem_singleton.mpr hid, fun operand hsame => ?_, nofun⟩
      exact hlist (Bool.eq_false_iff.mpr hnonempty) (Predicate.isIn.inj hsame).2
  · obtain ⟨column, hcolumn, rfl⟩ := List.mem_map.mp hmem
    exact Predicate.legible_eq (hstatus column (Option.mem_toList.mp hcolumn)) _

namespace Subject

variable {subject : Subject} {options : Options}

/-- The base table of a subject has legible names. -/
theorem legible_names (subject : Subject) :
    LegibleName subject.table ∧ LegibleAlias subject.tableAlias := by
  cases subject <;> exact ⟨legibleName_of_all rfl, legibleAlias_of_all rfl rfl⟩

/-- The columns of a subject are legible. -/
theorem legible_columns (subject : Subject) : subject.id.Legible ∧ subject.orderBy.Legible ∧
    ∀ column ∈ subject.status, column.Legible := by
  cases subject with
  | loggedCalls =>
    refine ⟨legible_callId, Column.legible_of_all rfl rfl rfl, ?_⟩
    rintro column ⟨⟩
    exact Column.legible_of_all rfl rfl rfl
  | datasetEntries =>
    exact ⟨Column.legible_of_all rfl rfl rfl, Column.legible_of_all rfl rfl rfl, nofun⟩

/-- The conditions of a scope are legible. -/
theorem legible_scope (subject : Subject) (scopeId : String) :
    ∀ predicate ∈ subject.scope scopeId, predicate.Legible := by
  cases subject with
  | loggedCalls =>
    refine List.forall_mem_singleton.mpr ?_
    exact Predicate.legible_eq (Column.legible_of_all rfl rfl rfl) _
  | datasetEntries =>
    refine List.forall_mem_cons.mpr ⟨?_, List.forall_mem_singleton.mpr ?_⟩
    · exact Predicate.legible_eq (Column.legible_of_all rfl rfl rfl) _
    · exact Predicate.legible_eq (Column.legible_of_all rfl rfl rfl) _

/-- What a filter adds is legible. -/
theorem Adds.legible {position : Nat} {filter : Filter} {clause : Clause}
    (h : subject.Adds options position filter (some clause)) : clause.predicate.Legible := by
  cases h with
  | column => exact Comparator.legible_predicate _ _ _ (KnownField.legible_column _)
  | tag _ _ _ _ htags =>
    cases subject with
    | datasetEntries => cases htags
    | loggedCalls =>
      obtain rfl := Option.some.inj htags
      exact Comparator.legible_predicate _ _ _ (legible_tagColumn position rfl)

/-- What filters add is legible. -/
theorem AddsAll.legible_predicates {position : Nat} {filters : List Filter}
    {clauses : List Clause} (h : subject.AddsAll options position filters clauses) :
    ∀ clause ∈ clauses, clause.predicate.Legible := by
  induction h with
  | nil => exact nofun
  | cons hfirst _ ih =>
    intro clause hclause
    rcases List.mem_append.mp hclause with hmem | hmem
    · obtain rfl := Option.mem_toList.mp hmem
      exact hfirst.legible
    · exact ih clause hmem

/-- The joins of a compiled query are legible. -/
theorem AddsAll.legible_joins {filters : List Filter} {clauses : List Clause}
    (h : subject.AddsAll options 0 filters clauses) :
    ∀ join ∈ subject.joins ++ clauses.filterMap Clause.join, join.Legible := by
  intro join hjoin
  rcases List.mem_append.mp hjoin with hmem | hmem
  · cases subject with
    | datasetEntries => cases hmem
    | loggedCalls =>
      obtain rfl := List.mem_singleton.mp hmem
      exact legible_responseJoin
  · obtain ⟨tags, i, name, htags, -, rfl⟩ := h.exists_joinAt hmem
    cases subject with
    | datasetEntries => cases htags
    | loggedCalls =>
      obtain rfl := Option.some.inj htags
      exact legible_tagJoin i name

/-- **A compiled query is legible.** -/
theorem AddsAll.legible {filters : List Filter} {clauses : List Clause}
    (h : subject.AddsAll options 0 filters clauses) (scopeId : String)
    (selection : Option Selection) :
    (subject.assemble options scopeId selection clauses).Legible where
  table := subject.legible_names.1
  tableAlias := subject.legible_names.2
  id := subject.legible_columns.1
  orderBy := subject.legible_columns.2.1
  joins := h.legible_joins
  ne_nil := by cases subject <;> exact nofun
  predicates := by
    intro predicate hpredicate
    obtain ⟨hid, -, hstatus⟩ := subject.legible_columns
    rcases List.mem_append.mp hpredicate with hmem | hmem
    · rcases List.mem_append.mp hmem with hscope | hclause
      · exact subject.legible_scope scopeId predicate hscope
      · obtain ⟨clause, hadded, rfl⟩ := List.mem_map.mp hclause
        exact h.legible_predicates clause hadded
    · cases selection with
      | none => cases hmem
      | some selection =>
        exact selection.legible_predicates hid hstatus options.successStatus predicate hmem

end Subject

end LogFilter
