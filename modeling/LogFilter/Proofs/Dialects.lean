import LogFilter.Proofs.Placeholders

/-!
# Two Dialects

A query is written in both dialects from the same pieces, and the dialects differ only in how a
placeholder and a text column are written. That this is all is said about the texts themselves:
the text in one dialect is made of the text in the other by two replacements, each of which
knows nothing about queries. The first rewrites whatever reads as a cast, the second whatever
reads as a placeholder.

A replacement finds the casts and placeholders that were written and no others, because the
words of a compiled query hold neither a mark nor the opening of a cast. Words are *plain* if no
cast opens in them, whatever comes after them.

## Main definitions

* `replacePlaceholders`, `replaceCasts`: the two replacements, from left to right.
* `isPlain`, `Piece.isPlain`: words, and pieces, in which no cast opens by chance.
* `asPostgres`: both replacements on a text.

## Main results

* `replacePlaceholders_written`, `Fragment.replaceCasts_written`: what becomes of the written
  glyphs.
* `Subject.sql_postgres_eq`: the text of a compiled query in one dialect is that in the other
  with casts and placeholders replaced.
-/

namespace LogFilter.Sql

/-! ### Replacing placeholders -/

/-- A text with its **placeholders replaced**: a question mark before a digit becomes a dollar
sign. -/
def replacePlaceholders : List Char → List Char
  | [] => []
  | c :: rest =>
      (if c = '?' ∧ rest.head?.any Char.isDigit then '$' else c) :: replacePlaceholders rest

/-- Where there is no mark there is nothing to replace. -/
theorem replacePlaceholders_append {words : List Char} (h : ∀ c ∈ words, isMark c = false)
    (rest : List Char) :
    replacePlaceholders (words ++ rest) = words ++ replacePlaceholders rest := by
  induction words with
  | nil => rfl
  | cons c words ih =>
    obtain ⟨hc, hwords⟩ := List.forall_mem_cons.mp h
    have hne : c ≠ '?' := by
      rintro rfl
      exact Bool.noConfusion hc
    rw [List.cons_append, replacePlaceholders, if_neg fun hmark => hne hmark.1, ih hwords]
    rfl

/-- A placeholder is replaced by the other dialect's. -/
theorem replacePlaceholders_placeholder (number : Nat) (rest : List Char) :
    replacePlaceholders ((Dialect.sqlite.placeholder number).toList ++ rest) =
      (Dialect.postgres.placeholder number).toList ++ replacePlaceholders rest := by
  have hdigits : ∀ c ∈ number.repr.toList, c.isDigit = true := fun c => isDigit_of_mem_repr
  have hmarks : ∀ c ∈ number.repr.toList, isMark c = false := fun c hc =>
    isMark_of_isAlphanum (by rw [Char.isAlphanum, hdigits c hc, Bool.or_true])
  -- A number has a first digit, and it is what the question mark stands before.
  obtain ⟨first, others, hnumber⟩ : ∃ first others, number.repr.toList = first :: others := by
    refine List.exists_cons_of_ne_nil ?_
    rw [Nat.toList_repr]
    exact Nat.toDigits_ne_nil
  have hfirst : (number.repr.toList ++ rest).head?.any Char.isDigit = true := by
    rw [hnumber, List.cons_append, List.head?_cons, Option.any_some]
    exact hdigits first (by rw [hnumber]; exact List.mem_cons_self)
  rw [Dialect.toList_placeholder, Dialect.toList_placeholder, List.cons_append, List.cons_append,
    replacePlaceholders, if_pos ⟨rfl, hfirst⟩, replacePlaceholders_append hmarks]
  rfl

/-- **Replacing the placeholders of clear glyphs** gives them as the other dialect writes them. -/
theorem replacePlaceholders_written {glyphs : List Glyph} (h : Clear glyphs) (next : Nat) :
    replacePlaceholders (Glyph.written .sqlite next glyphs) =
      Glyph.written .postgres next glyphs := by
  induction h generalizing next with
  | nil => rfl
  | @char c rest hmark _ ih =>
    have hc : ∀ d ∈ [c], isMark d = false := List.forall_mem_singleton.mpr hmark
    exact (replacePlaceholders_append hc _).trans (congrArg (c :: ·) (ih next))
  | value _ _ ih =>
    rw [Glyph.written, Glyph.written, replacePlaceholders_placeholder, ih]

/-! ### Replacing casts -/

/-- The words that open a cast. -/
def castOpening : List Char := ['C', 'A', 'S', 'T', '(']

/-- The words that close a cast to text. -/
def castClosing : List Char := [' ', 'A', 'S', ' ', 'T', 'E', 'X', 'T', ')']

/-- Reads a **cast to text** at the beginning of a text: what is cast, and the text after it. -/
def readCast (text : List Char) : Option (List Char × List Char) :=
  (text.dropPrefix? castOpening).bind (·.dropInfix? castClosing)

/-- What follows a cast is shorter than the text that begins with it. -/
theorem length_lt_of_readCast {text operand rest : List Char}
    (h : readCast text = some (operand, rest)) : rest.length < text.length := by
  obtain ⟨inner, hopening, hclosing⟩ := Option.bind_eq_some_iff.mp h
  obtain ⟨opening, rfl, hsame⟩ := List.dropPrefix?_eq_some_iff.mp hopening
  obtain ⟨⟨closing, rfl, -⟩, -⟩ := List.dropInfix?_eq_some_iff.mp hclosing
  obtain rfl := eq_of_beq hsame
  simp only [List.length_append, castOpening, List.length_cons]
  omega

/-- A text with its **casts replaced**: what is cast to text is followed by `::text` instead. -/
def replaceCasts : List Char → List Char
  | [] => []
  | c :: rest =>
      match _hcast : readCast (c :: rest) with
      | some (operand, after) => operand ++ "::text".toList ++ replaceCasts after
      | none => c :: replaceCasts rest
  termination_by text => text.length
  decreasing_by
    · exact length_lt_of_readCast ‹_›
    · exact Nat.lt_succ_self rest.length

/-- A text that begins with a cast. -/
theorem replaceCasts_of_readCast {text operand after : List Char}
    (h : readCast text = some (operand, after)) :
    replaceCasts text = operand ++ "::text".toList ++ replaceCasts after := by
  cases text with
  | nil => cases h
  | cons c rest =>
    rw [replaceCasts]
    split
    · next hsame =>
      obtain ⟨rfl, rfl⟩ := Prod.mk.inj (Option.some.inj (h.symm.trans hsame))
      rfl
    · next hnone => cases h.symm.trans hnone

/-- A text that does not begin with a cast keeps its first character. -/
theorem replaceCasts_cons {c : Char} {rest : List Char} (h : readCast (c :: rest) = none) :
    replaceCasts (c :: rest) = c :: replaceCasts rest := by
  rw [replaceCasts]
  split
  · next hsome => cases h.symm.trans hsome
  · rfl

/-- A cast is read back, if what is cast holds no blank. -/
theorem readCast_cast {operand : List Char} (h : ' ' ∉ operand) (rest : List Char) :
    readCast (castOpening ++ operand ++ castClosing ++ rest) = some (operand, rest) := by
  have hopening : (castOpening ++ operand ++ castClosing ++ rest).dropPrefix? castOpening =
      some (operand ++ castClosing ++ rest) := by
    simp only [List.append_assoc]
    exact List.dropPrefix?_append_of_beq _ (beq_self_eq_true _)
  rw [readCast, hopening, Option.bind_some, List.dropInfix?_eq_some_iff]
  refine ⟨⟨castClosing, rfl, beq_self_eq_true _⟩, fun before closing after hsplit hsame => ?_⟩
  obtain rfl := eq_of_beq hsame
  -- A closing further to the left would begin with a blank of what is cast.
  by_contra hshort
  rw [List.append_assoc, List.append_assoc] at hsplit
  obtain ⟨middle, rfl, -⟩ | ⟨middle, rfl, hmiddle⟩ := List.append_eq_append_iff.mp hsplit
  · rw [List.length_append] at hshort
    omega
  · cases middle with
    | nil =>
      rw [List.append_nil] at hshort
      omega
    | cons c middle =>
      obtain ⟨rfl, -⟩ := List.cons_eq_cons.mp hmiddle
      exact h (List.mem_append_right _ List.mem_cons_self)

/-- Whether words are **plain**: none of their suffixes is or may become the opening of a
cast. -/
def isPlain : List Char → Bool
  | [] => true
  | c :: rest =>
      !castOpening.isPrefixOf (c :: rest) && !(c :: rest).isPrefixOf castOpening && isPlain rest

/-- In plain words there is nothing to replace. -/
theorem replaceCasts_append {words : List Char} (h : isPlain words = true) (rest : List Char) :
    replaceCasts (words ++ rest) = words ++ replaceCasts rest := by
  induction words with
  | nil => rfl
  | cons c words ih =>
    simp only [isPlain, Bool.and_eq_true, Bool.not_eq_true', ← Bool.not_eq_true,
      List.isPrefixOf_iff_prefix] at h
    obtain ⟨⟨hopens, hbegins⟩, hplain⟩ := h
    have hnone : readCast (c :: (words ++ rest)) = none := by
      refine Option.bind_eq_none_iff.mpr fun inner hdrop => ?_
      obtain ⟨opening, hsplit, hsame⟩ := List.dropPrefix?_eq_some_iff.mp hdrop
      obtain rfl := eq_of_beq hsame
      have hopening : castOpening <+: c :: (words ++ rest) := ⟨inner, hsplit.symm⟩
      have hwords : c :: words <+: c :: (words ++ rest) := ⟨rest, rfl⟩
      -- The opening and the words begin one text, so one of them begins the other.
      rcases List.prefix_or_prefix_of_prefix hopening hwords with hshort | hlong
      · exact absurd hshort hopens
      · exact absurd hlong hbegins
    rw [List.cons_append, replaceCasts_cons hnone, ih hplain]
    rfl

/-- Words without a parenthesis are plain, if their last character is none that opens a cast. -/
theorem isPlain_of_getLast? {words : List Char} (h : '(' ∉ words)
    (hlast : ∀ c ∈ words.getLast?, c ∉ castOpening) : isPlain words = true := by
  induction words with
  | nil => rfl
  | cons c words ih =>
    have hopens : ¬castOpening <+: c :: words := fun hprefix =>
      h (List.IsPrefix.subset hprefix (by decide))
    have hbegins : ¬c :: words <+: castOpening := fun hprefix =>
      hlast _ (List.getLast?_eq_getLast_of_ne_nil (List.cons_ne_nil c words))
        (List.IsPrefix.subset hprefix (List.getLast_mem (List.cons_ne_nil c words)))
    have hwords : isPlain words = true := by
      refine ih (fun hmem => h (List.mem_cons_of_mem _ hmem)) fun d hd => hlast d ?_
      cases words with
      | nil => cases hd
      | cons next words => exact hd
    simp only [isPlain, Bool.and_eq_true, Bool.not_eq_true', ← Bool.not_eq_true,
      List.isPrefixOf_iff_prefix]
    exact ⟨⟨hopens, hbegins⟩, hwords⟩

/-- Whether a piece is plain: its words are, or the name of the column it casts has no blank. -/
def Piece.isPlain : Piece → Bool
  | .words text => Sql.isPlain text.toList
  | .asText column => !column.qualified.toList.contains ' '
  | .bind _ => true

/-- A placeholder is plain. -/
theorem isPlain_placeholder (number : Nat) :
    isPlain (Dialect.sqlite.placeholder number).toList = true := by
  have hdigits : castOpening.all (fun c => !c.isDigit) = true := rfl
  have hchars : ∀ c ∈ (Dialect.sqlite.placeholder number).toList, c ∉ castOpening := by
    rw [Dialect.toList_placeholder]
    refine List.forall_mem_cons.mpr ⟨by decide, fun c hc hmem => ?_⟩
    have hdigit := List.all_eq_true.mp hdigits c hmem
    rw [isDigit_of_mem_repr hc] at hdigit
    cases hdigit
  exact isPlain_of_getLast? (fun hmem => hchars _ hmem (by decide)) fun c hc =>
    hchars c (List.mem_of_getLast? hc)

/-- **Replacing the casts of plain pieces** gives them as the other dialect writes columns. -/
theorem Fragment.replaceCasts_written {fragment : Fragment}
    (h : fragment.all Piece.isPlain = true) (next : Nat) :
    replaceCasts (Glyph.written .sqlite next (fragment.glyphs .sqlite)) =
      Glyph.written .sqlite next (fragment.glyphs .postgres) := by
  induction fragment generalizing next with
  | nil => rw [glyphs_nil, Glyph.written, replaceCasts]; rfl
  | cons piece rest ih =>
    obtain ⟨hpiece, hrest⟩ := Bool.and_eq_true_iff.mp h
    simp only [glyphs_cons]
    cases piece with
    | words text =>
      rw [Piece.glyphs_words, Piece.glyphs_words, Glyph.written_letters_append,
        Glyph.written_letters_append, replaceCasts_append hpiece, ih hrest]
    | asText column =>
      have hblank : ' ' ∉ column.qualified.toList := by simpa [Piece.isPlain] using hpiece
      have hread := readCast_cast hblank (Glyph.written .sqlite next (glyphs .sqlite rest))
      have hcast : (Dialect.sqlite.textCast column).toList =
          castOpening ++ column.qualified.toList ++ castClosing := by
        simp [Dialect.textCast, castOpening, castClosing]
      rw [Piece.glyphs, Piece.glyphs, Glyph.written_letters_append, Glyph.written_letters_append,
        hcast, replaceCasts_of_readCast hread, ih hrest, Dialect.textCast, String.toList_append]
    | bind value =>
      rw [Piece.glyphs_bind, Piece.glyphs_bind, List.singleton_append, List.singleton_append,
        Glyph.written, Glyph.written, replaceCasts_append (isPlain_placeholder next), ih hrest]

/-- A text in the one dialect **rewritten for the other**: all casts in it are replaced, and all
placeholders. -/
def asPostgres (sql : String) : String :=
  String.ofList (replacePlaceholders (replaceCasts sql.toList))

/-! ### Compiled queries are plain -/

/-- A text without a parenthesis is plain if it ends with words whose last character is none that
opens a cast. -/
theorem isPlain_append (front : String) {close : String} {last : Char}
    (hclose : close.toList.getLast? = some last) (hlast : last ∉ castOpening)
    (h : '(' ∉ (front ++ close).toList) : isPlain (front ++ close).toList = true := by
  refine isPlain_of_getLast? h fun c hc => ?_
  rw [String.toList_append, List.getLast?_append, hclose, Option.some_or] at hc
  obtain rfl := Option.some.inj hc
  exact hlast

/-- A legible column holds neither a parenthesis nor a blank. -/
theorem Column.Legible.notMem_qualified {column : Column} (h : column.Legible) :
    '(' ∉ column.qualified.toList ∧ ' ' ∉ column.qualified.toList := by
  constructor <;> simp [qualified, h.tableAlias.1.not_mem, h.name.not_mem]

/-- A legible column is plain, also at the end of a text without a parenthesis. -/
theorem Column.Legible.isPlain_append {column : Column} (h : column.Legible) {front : String}
    (hfront : '(' ∉ front.toList) : isPlain (front ++ column.qualified).toList = true := by
  rw [qualified, ← String.append_assoc]
  refine Sql.isPlain_append _ (rfl : _ = some '"') (by decide) ?_
  simp [hfront, h.tableAlias.1.not_mem, h.name.not_mem]

/-- A legible column is plain. -/
theorem Column.Legible.isPlain {column : Column} (h : column.Legible) :
    isPlain column.qualified.toList = true :=
  Sql.isPlain_append _ (rfl : _ = some '"') (by decide) h.notMem_qualified.1

/-- An operand is plain. -/
theorem isPlain_operand {operand : Operand} (h : operand.source.Legible) :
    operand.piece.isPlain = true := by
  cases operand with
  | column source => exact h.isPlain
  | text source =>
    have hblank : ' ' ∉ source.qualified.toList := h.notMem_qualified.2
    simpa [Operand.piece, Piece.isPlain] using hblank

/-- A pattern is plain. -/
theorem isPlain_pattern (pattern : LikePattern) :
    pattern.pieces.all Piece.isPlain = true := by
  cases hescaped : pattern.escaped <;> rw [LikePattern.pieces, hescaped] <;> rfl

/-- Plain fragments with a plain separator are plain. -/
theorem isPlain_separated {separator : String} (hseparator : isPlain separator.toList = true)
    {fragments : List Fragment} (h : ∀ fragment ∈ fragments, fragment.all Piece.isPlain = true) :
    (separated separator fragments).all Piece.isPlain = true := by
  induction fragments with
  | nil => rfl
  | cons first rest ih =>
    obtain ⟨hfirst, hrest⟩ := List.forall_mem_cons.mp h
    cases rest with
    | nil => exact hfirst
    | cons next rest =>
      rw [separated, List.all_append, hfirst, List.all_cons, ih hrest, Bool.true_and, Bool.and_true]
      exact hseparator

/-- A list of values is plain. -/
theorem isPlain_bindList (values : List Scalar) :
    (bindList values).all Piece.isPlain = true := by
  have hvalues : (separated ", " (values.map fun value => [.bind value])).all Piece.isPlain =
      true := by
    refine isPlain_separated rfl fun fragment hmem => ?_
    obtain ⟨value, -, rfl⟩ := List.mem_map.mp hmem
    rfl
  rw [bindList, List.cons_append, List.all_cons, List.all_append, hvalues]
  rfl

/-- **A legible condition is plain.** -/
theorem Predicate.Legible.isPlain {predicate : Predicate} (h : predicate.Legible) :
    predicate.pieces.all Piece.isPlain = true := by
  cases predicate with
  | eq operand value | distinctFrom operand value =>
    have hoperand := isPlain_operand (h.columns operand.source (List.mem_singleton_self _))
    rw [pieces, List.all_cons, hoperand]
    rfl
  | like operand pattern =>
    have hoperand := isPlain_operand (h.columns operand.source (List.mem_singleton_self _))
    rw [pieces, List.all_cons, hoperand, List.all_cons, isPlain_pattern]
    rfl
  | notLikeOrNull operand pattern =>
    have hoperand := isPlain_operand (h.columns operand.source (List.mem_singleton_self _))
    simp only [pieces, List.cons_append, List.all_cons, List.all_append, hoperand,
      isPlain_pattern]
    rfl
  | columnsEq left right =>
    have hleft : Piece.isPlain (.words left.qualified) = true :=
      (h.columns left List.mem_cons_self).isPlain
    have hright : Piece.isPlain (.words right.qualified) = true :=
      (h.columns right (List.mem_cons_of_mem _ (List.mem_singleton_self _))).isPlain
    rw [pieces, List.all_cons, hleft, List.all_cons, List.all_cons, hright]
    rfl
  | isIn operand values | notIn operand values =>
    have hoperand := isPlain_operand (h.columns operand.source (List.mem_singleton_self _))
    cases values with
    | nil => rfl
    | cons first rest =>
      simp only [pieces, List.all_cons, hoperand, isPlain_bindList]
      rfl
  | never => rfl

/-- A conjunction of legible conditions is plain. -/
theorem isPlain_conjunction {predicates : List Predicate}
    (h : ∀ predicate ∈ predicates, predicate.Legible) :
    (conjunction predicates).all Piece.isPlain = true := by
  cases predicates with
  | nil => rfl
  | cons first rest =>
    refine isPlain_separated rfl fun fragment hmem => ?_
    obtain ⟨predicate, hpredicate, rfl⟩ := List.mem_map.mp hmem
    exact (h predicate hpredicate).isPlain

/-- A legible join is plain. -/
theorem LeftJoin.Legible.isPlain {join : LeftJoin} (h : join.Legible) :
    join.pieces.all Piece.isPlain = true := by
  have hwords : Piece.isPlain (.words
      (" LEFT JOIN \"" ++ join.table ++ "\" AS " ++ join.tableAlias ++ " ON ")) = true := by
    refine isPlain_append _ (rfl : _ = some ' ') (by decide) ?_
    simp [h.table.not_mem, h.tableAlias.1.not_mem]
  rw [LeftJoin.pieces, List.all_cons, hwords, isPlain_conjunction h.on]
  rfl

/-- What follows the conditions of a legible query is plain. -/
theorem Query.Legible.isPlain_tail {query : Query} (h : query.Legible)
    (projection : Projection) : (query.tail projection).all Piece.isPlain = true := by
  have hordering : Piece.isPlain (.words query.ordering) = true := by
    refine h.id.isPlain_append ?_
    simp [h.orderBy.notMem_qualified.1]
  cases projection with
  | count => rfl
  | ids | page => simp only [tail, List.all_cons, hordering]; rfl

end LogFilter.Sql

namespace LogFilter

open Sql

namespace Subject

variable {subject : Subject} {options : Options}

/-- **A compiled query is plain** in all its pieces, under every projection. -/
theorem isPlain_compile {scopeId : String} {filters : List Filter}
    {selection : Option Selection} {query : Query}
    (hquery : subject.compile options scopeId filters selection = .ok query)
    (projection : Projection) : (query.pieces projection).all Piece.isPlain = true := by
  obtain ⟨clauses, hclauses, rfl⟩ := compile_eq_ok_iff.mp hquery
  have hlegible := hclauses.legible scopeId selection
  have hhead : Piece.isPlain (.words
      ((subject.assemble options scopeId selection clauses).head projection)) = true := by
    cases subject <;> cases projection <;>
      simp only [Piece.isPlain, Query.head, assemble, String.toList_append] <;> rfl
  have hjoins : ((subject.assemble options scopeId selection clauses).joins.flatMap
      LeftJoin.pieces).all Piece.isPlain = true := by
    rw [List.all_flatMap, List.all_eq_true]
    exact fun join hmem => (hlegible.joins join hmem).isPlain
  rw [Query.pieces, List.cons_append, List.all_cons, hhead, List.all_append, Query.body,
    List.all_append, hjoins, List.all_cons, isPlain_conjunction hlegible.predicates,
    hlegible.isPlain_tail]
  rfl

/-- **The two dialects write the same query.** For every query that compiles and under every
projection, the two statements have the same parameters and as many tag joins, and the text in
one dialect is the text in the other with its casts and placeholders replaced and nothing else
changed. -/
theorem sql_postgres_eq {scopeId : String} {filters : List Filter}
    {selection : Option Selection} {query : Query}
    (hquery : subject.compile options scopeId filters selection = .ok query)
    (projection : Projection) :
    let inPostgres := Statement.select query .postgres projection
    let inSqlite := Statement.select query .sqlite projection
    inPostgres.params = inSqlite.params ∧ inPostgres.tagJoins = inSqlite.tagJoins ∧
      inPostgres.sql = asPostgres inSqlite.sql := by
  refine ⟨rfl, rfl, String.toList_inj.mp ?_⟩
  have hclear : Clear (Fragment.glyphs .postgres (query.pieces projection)) := by
    obtain ⟨clauses, hclauses, rfl⟩ := compile_eq_ok_iff.mp hquery
    exact (hclauses.legible scopeId selection).clear projection
  have hcasts := Fragment.replaceCasts_written (isPlain_compile hquery projection) 1
  calc (Fragment.text .postgres (query.pieces projection)).toList
      = Glyph.written .postgres 1 (Fragment.glyphs .postgres (query.pieces projection)) :=
        Fragment.toList_text _ _
    _ = replacePlaceholders (Glyph.written .sqlite 1
          (Fragment.glyphs .postgres (query.pieces projection))) :=
        (replacePlaceholders_written hclear 1).symm
    _ = replacePlaceholders (replaceCasts
          (Fragment.text .sqlite (query.pieces projection)).toList) := by
        rw [Fragment.toList_text, hcasts]
    _ = (asPostgres (Fragment.text .sqlite (query.pieces projection))).toList := by
        rw [asPostgres, String.toList_ofList]

/-- The value of one filter reads like a cast and the tag of another like a placeholder, and
neither is in the text: what is replaced is the cast of the column and the numbers. -/
theorem sql_postgres_eq_of_lookalikes : ∃ query,
    loggedCalls.compile {} "p"
        [⟨"model", "CONTAINS", some "CAST(a AS TEXT)"⟩, ⟨"?1", "=", some "b"⟩] none =
      .ok query ∧
      (Statement.select query .postgres .count).params =
        (Statement.select query .sqlite .count).params ∧
      asPostgres (Statement.select query .sqlite .count).sql =
        "SELECT COUNT(*) FROM \"LoggedCall\" AS lc" ++
          " LEFT JOIN \"LoggedCallModelResponse\" AS lcmr" ++
            " ON lc.\"id\" = lcmr.\"originalLoggedCallId\"" ++
          " LEFT JOIN \"LoggedCallTag\" AS lct1" ++
            " ON lc.\"id\" = lct1.\"loggedCallId\" AND lct1.\"name\" = $1" ++
          " WHERE lc.\"projectId\" = $2 AND lc.\"model\"::text LIKE $3" ++
            " AND lct1.\"value\" = $4" := by
  refine ⟨_, rfl, ?_⟩
  obtain ⟨hparams, -, hsql⟩ := sql_postgres_eq (rfl : loggedCalls.compile {} "p"
    [⟨"model", "CONTAINS", some "CAST(a AS TEXT)"⟩, ⟨"?1", "=", some "b"⟩] none = .ok _) .count
  exact ⟨hparams, hsql.symm.trans (by decide +kernel)⟩

end Subject

end LogFilter
