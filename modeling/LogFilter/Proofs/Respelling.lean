import LogFilter.Proofs.Placeholders

/-!
# Respelling

The words of a text are the runs of letters and digits in it, each as long as it can be. A
spelling says what becomes of each word, and a text is respelled by replacing its words; what
stands between them stays.

A query is respelled by respelling its names. If the spelling spares the keywords and the numbers,
both are the same: what is written for the respelled query is the respelled text of the query. The
reason is that a name is always a word of its own in the text of a legible query, never a part of
a longer one, and that a placeholder is never followed by a letter or a digit.

## Main definitions

* `respell`: a text with other words.
* `SparesKeywords`: spellings that leave keywords and numbers alone.
* `Query.respell`: a query with other names.
* `Respells`: glyphs that are respelled word by word.

## Main results

* `Respells.written`: what is written from respelled glyphs is the respelled text.
* `Query.Legible.respells`: the glyphs of a respelled query are those of the query, respelled.
* `Query.Legible.sql_respell`: the text of a respelled query is the respelled text.
-/

namespace LogFilter.Sql

/-! ### Words -/

/-- Respells the words of a text, where `word` is what was read of the first one so far. -/
def respellFrom (spell : String → String) (word : List Char) : List Char → List Char
  | [] => (spell (String.ofList word)).toList
  | c :: rest =>
      if c.isAlphanum then respellFrom spell (word ++ [c]) rest
      else (spell (String.ofList word)).toList ++ c :: respellFrom spell [] rest

/-- A text whose words are **respelled**. -/
def respell (spell : String → String) (text : String) : String :=
  String.ofList (respellFrom spell [] text.toList)

/-- Whether a spelling **spares keywords**: it changes no word but those that begin with the
letter `l`, and keywords and numbers do not. -/
def SparesKeywords (spell : String → String) : Prop :=
  ∀ word : String, word.toList.head? ≠ some 'l' → spell word = word

variable {spell : String → String}

/-- Letters and digits go on with a word. -/
theorem respellFrom_append {cs : List Char} (h : ∀ c ∈ cs, c.isAlphanum = true)
    (word rest : List Char) :
    respellFrom spell word (cs ++ rest) = respellFrom spell (word ++ cs) rest := by
  induction cs generalizing word with
  | nil => rw [List.nil_append, List.append_nil]
  | cons c cs ih =>
    obtain ⟨hc, hcs⟩ := List.forall_mem_cons.mp h
    rw [List.cons_append, respellFrom, if_pos hc, ih hcs, List.append_assoc, List.singleton_append]

/-- The empty word is spared. -/
theorem SparesKeywords.empty (h : SparesKeywords spell) : spell "" = "" := h "" nofun

/-! ### Respelled glyphs -/

/-- Whether glyphs do not begin with a letter or a digit. -/
def Unlettered (glyphs : List Glyph) : Prop :=
  ∀ c rest, glyphs = .char c :: rest → c.isAlphanum = false

/-- Glyphs that are **respelled** word by word. -/
inductive Respells (spell : String → String) : List Glyph → List Glyph → Prop
  | nil : Respells spell [] []
  /-- A whole word is respelled. -/
  | word {name : String} {rest respelled : List Glyph} : LegibleName name → Unlettered rest →
      Respells spell rest respelled →
      Respells spell (letters name ++ rest) (letters (spell name) ++ respelled)
  /-- What is no letter and no digit stays. -/
  | mark {c : Char} {rest respelled : List Glyph} : c.isAlphanum = false →
      Respells spell rest respelled → Respells spell (.char c :: rest) (.char c :: respelled)
  /-- So does the place of a value. -/
  | value {content : Scalar} {rest respelled : List Glyph} : Unlettered rest →
      Respells spell rest respelled →
      Respells spell (.value content :: rest) (.value content :: respelled)

/-- Words that do not begin with a letter or a digit. -/
theorem unlettered_letters {words : String}
    (h : words.toList.head?.any (fun c => !c.isAlphanum) = true) (rest : List Glyph) :
    Unlettered (letters words ++ rest) :=
  kind_first_of_letters_append h rest

/-- Nothing begins with no letter and no digit. -/
theorem unlettered_nil : Unlettered [] := nofun

/-- A word ends where something is written that begins with no letter and no digit. -/
theorem respellFrom_written (hspell : SparesKeywords spell) {glyphs : List Glyph}
    (h : Unlettered glyphs) (dialect : Dialect) (next : Nat) (word : List Char) :
    respellFrom spell word (Glyph.written dialect next glyphs) =
      (spell (String.ofList word)).toList ++
        respellFrom spell [] (Glyph.written dialect next glyphs) := by
  have hcut {c : Char} (hc : c.isAlphanum = false) (rest : List Char) :
      respellFrom spell word (c :: rest) =
        (spell (String.ofList word)).toList ++ respellFrom spell [] (c :: rest) := by
    rw [respellFrom, respellFrom, hc, if_neg Bool.false_ne_true, if_neg Bool.false_ne_true,
      String.ofList_nil, hspell.empty, String.toList_empty, List.nil_append]
  cases glyphs with
  | nil =>
    rw [Glyph.written, respellFrom, respellFrom, String.ofList_nil, hspell.empty,
      String.toList_empty, List.append_nil]
  | cons glyph rest =>
    cases glyph with
    | char c => exact hcut (h c rest rfl) _
    | value content =>
      rw [Glyph.written, dialect.toList_placeholder, List.cons_append]
      exact hcut (by cases dialect <;> rfl) _

/-- **What is written from respelled glyphs is the respelled text.** -/
theorem Respells.written (hspell : SparesKeywords spell) {glyphs respelled : List Glyph}
    (h : Respells spell glyphs respelled) (dialect : Dialect) (next : Nat) :
    respellFrom spell [] (Glyph.written dialect next glyphs) =
      Glyph.written dialect next respelled := by
  induction h generalizing next with
  | nil => rw [Glyph.written, respellFrom, String.ofList_nil, hspell.empty]; rfl
  | @word name rest respelled hname hnext _ ih =>
    rw [Glyph.written_letters_append, Glyph.written_letters_append, respellFrom_append hname,
      respellFrom_written hspell hnext, ih, List.nil_append, String.ofList_toList]
  | mark hmark _ ih =>
    rw [Glyph.written, Glyph.written, respellFrom, hmark, if_neg Bool.false_ne_true, ih,
      String.ofList_nil, hspell.empty]
    rfl
  | @value content rest respelled hnext _ ih =>
    -- The number of a placeholder is a word, and one that is spared.
    have hdigits : ∀ c ∈ next.repr.toList, c.isAlphanum = true := fun c hc => by
      rw [Char.isAlphanum, isDigit_of_mem_repr hc, Bool.or_true]
    have hnumber : spell next.repr = next.repr := by
      refine hspell _ fun hhead => ?_
      have hdigit := isDigit_of_mem_repr (List.mem_of_mem_head? hhead)
      exact absurd hdigit (by decide)
    have hmark : dialect.mark.isAlphanum = false := by cases dialect <;> rfl
    rw [Glyph.written, Glyph.written, dialect.toList_placeholder, List.cons_append, respellFrom,
      hmark, if_neg Bool.false_ne_true, respellFrom_append hdigits, respellFrom_written hspell hnext,
      ih, List.nil_append, String.ofList_toList, hnumber, String.ofList_nil, hspell.empty]
    rfl

/-! ### Respelled queries -/

/-- A column with a **respelled** alias and name. -/
def Column.respell (spell : String → String) (column : Column) : Column where
  tableAlias := spell column.tableAlias
  name := spell column.name

/-- An operand on the respelled column. -/
def Operand.respell (spell : String → String) : Operand → Operand
  | .column source => .column (source.respell spell)
  | .text source => .text (source.respell spell)

/-- A condition on **respelled** columns, with the same values. -/
def Predicate.respell (spell : String → String) : Predicate → Predicate
  | .eq operand value => .eq (operand.respell spell) value
  | .distinctFrom operand value => .distinctFrom (operand.respell spell) value
  | .like operand pattern => .like (operand.respell spell) pattern
  | .notLikeOrNull operand pattern => .notLikeOrNull (operand.respell spell) pattern
  | .columnsEq left right => .columnsEq (left.respell spell) (right.respell spell)
  | .isIn operand values => .isIn (operand.respell spell) values
  | .notIn operand values => .notIn (operand.respell spell) values
  | .never => .never

/-- A join with **respelled** names. -/
def LeftJoin.respell (spell : String → String) (join : LeftJoin) : LeftJoin where
  table := spell join.table
  tableAlias := spell join.tableAlias
  on := join.on.map (Predicate.respell spell)

/-- A query with **respelled** names. -/
def Query.respell (spell : String → String) (query : Query) : Query where
  table := spell query.table
  tableAlias := spell query.tableAlias
  id := query.id.respell spell
  orderBy := query.orderBy.respell spell
  joins := query.joins.map (LeftJoin.respell spell)
  predicates := query.predicates.map (Predicate.respell spell)
  tagJoins := query.tagJoins

/-! ### The glyphs of a respelled query -/

section Glyphs

variable {dialect : Dialect} {rest respelled : List Glyph}

/-- Characters that are no `l` stay before something that begins with no letter and no digit. -/
theorem respells_chars (hspell : SparesKeywords spell) {cs : List Char} (hkeep : 'l' ∉ cs)
    (hnext : Unlettered rest) (hrest : Respells spell rest respelled) :
    Respells spell (cs.map .char ++ rest) (cs.map .char ++ respelled) := by
  -- The word that is being read may have begun before: its first characters come in front.
  suffices hread : ∀ word : List Char, (∀ c ∈ word, c.isAlphanum = true) → 'l' ∉ word →
      Respells spell (word.map .char ++ (cs.map .char ++ rest))
        (word.map .char ++ (cs.map .char ++ respelled)) from hread [] nofun List.not_mem_nil
  have hword (word : List Char) (halnum : ∀ c ∈ word, c.isAlphanum = true) (hkeep : 'l' ∉ word)
      {tail changed : List Glyph} (hnext : Unlettered tail) (htail : Respells spell tail changed) :
      Respells spell (word.map .char ++ tail) (word.map .char ++ changed) := by
    have hchars : (String.ofList word).toList = word := String.toList_ofList
    have hglyphs : letters (String.ofList word) = word.map .char := congrArg (List.map _) hchars
    have hsame : spell (String.ofList word) = String.ofList word :=
      hspell _ fun hhead => hkeep (List.mem_of_mem_head? (hchars ▸ hhead))
    have hresult := Respells.word (hchars.symm ▸ halnum : LegibleName _) hnext htail
    rwa [hsame, hglyphs] at hresult
  induction cs with
  | nil => exact fun word halnum hkeep => hword word halnum hkeep hnext hrest
  | cons c cs ih =>
    obtain ⟨hc, hcs⟩ := List.ne_and_not_mem_of_not_mem_cons hkeep
    intro word halnum hkeep
    by_cases hletter : c.isAlphanum = true
    · have hgrown := ih hcs (word ++ [c])
        (List.forall_mem_append.mpr ⟨halnum, List.forall_mem_singleton.mpr hletter⟩)
        (List.not_mem_append hkeep fun hmem => hc (List.mem_singleton.mp hmem))
      simpa using hgrown
    · have hmark : c.isAlphanum = false := Bool.eq_false_iff.mpr hletter
      refine hword word halnum hkeep ?_ (.mark hmark (ih hcs [] nofun List.not_mem_nil))
      rintro _ _ ⟨⟩
      exact hmark

/-- Words without the letter `l` stay before something that begins with no letter and no digit. -/
theorem respells_words (hspell : SparesKeywords spell) {words : String}
    (hkeep : words.toList.all (· != 'l') = true) (hnext : Unlettered rest)
    (hrest : Respells spell rest respelled) :
    Respells spell (letters words ++ rest) (letters words ++ respelled) := by
  refine respells_chars hspell (fun hmem => ?_) hnext hrest
  exact absurd (List.all_eq_true.mp hkeep 'l' hmem) (by decide)

/-- Before anything they stay if they end with no letter and no digit. -/
theorem respells_letters (hspell : SparesKeywords spell) {words : String}
    (hkeep : words.toList.all (· != 'l') = true)
    (hend : words.toList.getLast?.any (fun c => !c.isAlphanum) = true)
    (hrest : Respells spell rest respelled) :
    Respells spell (letters words ++ rest) (letters words ++ respelled) := by
  cases hlast : words.toList.getLast? with
  | none => rw [hlast] at hend; cases hend
  | some c =>
    obtain ⟨front, hfront⟩ := List.getLast?_eq_some_iff.mp hlast
    have hmark : c.isAlphanum = false := by
      rw [hlast] at hend
      simpa using hend
    have hfree : 'l' ∉ front := fun hmem => by
      refine absurd (List.all_eq_true.mp hkeep 'l' ?_) (by decide)
      exact hfront ▸ List.mem_append_left _ hmem
    have hbehind : Unlettered (.char c :: rest) := by
      rintro _ _ ⟨⟩
      exact hmark
    rw [letters, hfront, List.map_append, List.append_assoc, List.append_assoc]
    exact respells_chars hspell hfree hbehind (.mark hmark hrest)

/-- A legible column is respelled as a column. -/
theorem Column.Legible.respells (hspell : SparesKeywords spell) {column : Column}
    (h : column.Legible) (hrest : Respells spell rest respelled) :
    Respells spell (letters column.qualified ++ rest)
      (letters (column.respell spell).qualified ++ respelled) := by
  simp only [qualified, respell, letters_append, List.append_assoc]
  refine .word h.tableAlias.1 (unlettered_letters rfl _) (respells_letters hspell rfl rfl ?_)
  exact .word h.name (unlettered_letters rfl _) (respells_letters hspell rfl rfl hrest)

/-- An operand is respelled as an operand. -/
theorem respells_operand (hspell : SparesKeywords spell) {operand : Operand}
    (h : operand.source.Legible) (hnext : Unlettered rest)
    (hrest : Respells spell rest respelled) :
    Respells spell (operand.piece.glyphs dialect ++ rest)
      ((operand.respell spell).piece.glyphs dialect ++ respelled) := by
  cases operand with
  | column source => exact h.respells hspell hrest
  | text source =>
    cases dialect with
    | postgres =>
      simp only [Operand.respell, Operand.piece, Piece.glyphs, Dialect.textCast, letters_append,
        List.append_assoc]
      exact h.respells hspell (respells_words hspell rfl hnext hrest)
    | sqlite =>
      simp only [Operand.respell, Operand.piece, Piece.glyphs, Dialect.textCast, letters_append,
        List.append_assoc]
      exact respells_letters hspell rfl rfl (h.respells hspell (respells_letters hspell rfl rfl hrest))

/-- Items that are respelled before what begins with no letter and no digit are so one after the
other, each behind words of that kind. -/
theorem respells_flatMap (hspell : SparesKeywords spell) {α : Type} {items : List α}
    {words : String} {write rewrite : α → List Glyph}
    (hkeep : words.toList.all (· != 'l') = true)
    (hend : words.toList.getLast?.any (fun c => !c.isAlphanum) = true)
    (hfirst : words.toList.head?.any (fun c => !c.isAlphanum) = true)
    (hwrite : ∀ item ∈ items, ∀ {rest respelled}, Unlettered rest → Respells spell rest respelled →
      Respells spell (write item ++ rest) (rewrite item ++ respelled))
    (hnext : Unlettered rest) (hrest : Respells spell rest respelled) :
    Unlettered (items.flatMap (fun item => letters words ++ write item) ++ rest) ∧
      Respells spell (items.flatMap (fun item => letters words ++ write item) ++ rest)
        (items.flatMap (fun item => letters words ++ rewrite item) ++ respelled) := by
  induction items with
  | nil => exact ⟨hnext, hrest⟩
  | cons item items ih =>
    obtain ⟨hbehind, hothers⟩ := ih fun later hmem => hwrite later (List.mem_cons_of_mem _ hmem)
    simp only [List.flatMap_cons, List.append_assoc] at hbehind hothers ⊢
    have hitem := hwrite item List.mem_cons_self hbehind hothers
    exact ⟨unlettered_letters hfirst _, respells_letters hspell hkeep hend hitem⟩

/-- A pattern has no words to respell. -/
theorem respells_pattern (hspell : SparesKeywords spell) (pattern : LikePattern)
    (hnext : Unlettered rest) (hrest : Respells spell rest respelled) :
    Respells spell (Fragment.glyphs dialect pattern.pieces ++ rest)
      (Fragment.glyphs dialect pattern.pieces ++ respelled) := by
  rw [Fragment.glyphs_pattern]
  cases pattern.escaped with
  | true => exact .value (unlettered_letters rfl rest) (respells_letters hspell rfl rfl hrest)
  | false => exact .value hnext hrest

/-- Neither has a list of values. -/
theorem respells_bindList (hspell : SparesKeywords spell) (first : Scalar) (others : List Scalar)
    (hrest : Respells spell rest respelled) :
    Respells spell (Fragment.glyphs dialect (bindList (first :: others)) ++ rest)
      (Fragment.glyphs dialect (bindList (first :: others)) ++ respelled) := by
  have hclose : Respells spell (letters ")" ++ rest) (letters ")" ++ respelled) :=
    respells_letters hspell rfl rfl hrest
  obtain ⟨hbehind, hothers⟩ := @respells_flatMap spell _ _ hspell _ others ", "
    (fun value => [.value value]) (fun value => [.value value]) rfl rfl rfl
    (fun value _ _ _ hnext hrest => .value hnext hrest) (unlettered_letters rfl rest) hclose
  rw [Fragment.glyphs_bindList_cons, List.append_assoc, List.append_assoc, List.append_assoc,
    List.append_assoc]
  exact respells_letters hspell rfl rfl (.value hbehind hothers)

/-- **A legible condition is respelled as a condition** before what begins with no letter and no
digit. -/
theorem Predicate.Legible.respells (hspell : SparesKeywords spell) {predicate : Predicate}
    (h : predicate.Legible) (hnext : Unlettered rest) (hrest : Respells spell rest respelled) :
    Respells spell (Fragment.glyphs dialect predicate.pieces ++ rest)
      (Fragment.glyphs dialect (predicate.respell spell).pieces ++ respelled) := by
  cases predicate with
  | eq operand value | distinctFrom operand value =>
    have hoperand := h.columns operand.source (List.mem_singleton_self _)
    simp only [respell, pieces, Fragment.glyphs_cons, List.append_assoc]
    refine respells_operand hspell hoperand (unlettered_letters rfl _) ?_
    exact respells_letters hspell rfl rfl (.value hnext hrest)
  | like operand pattern =>
    have hoperand := h.columns operand.source (List.mem_singleton_self _)
    simp only [respell, pieces, Fragment.glyphs_cons, List.append_assoc]
    refine respells_operand hspell hoperand (unlettered_letters rfl _) ?_
    exact respells_letters hspell rfl rfl (respells_pattern hspell pattern hnext hrest)
  | notLikeOrNull operand pattern =>
    have hoperand := h.columns operand.source (List.mem_singleton_self _)
    simp only [respell, pieces, Fragment.glyphs_cons, Fragment.glyphs_append, List.cons_append,
      List.append_assoc]
    refine respells_letters hspell rfl rfl ?_
    refine respells_operand hspell hoperand (unlettered_letters rfl _) ?_
    refine respells_letters hspell rfl rfl ?_
    refine respells_pattern hspell pattern (unlettered_letters rfl _) ?_
    refine respells_letters hspell rfl rfl ?_
    refine respells_operand hspell hoperand (unlettered_letters rfl _) ?_
    exact respells_letters hspell rfl rfl hrest
  | columnsEq left right =>
    simp only [respell, pieces, Fragment.glyphs_cons, List.append_assoc]
    refine (h.columns left List.mem_cons_self).respells hspell ?_
    refine respells_letters hspell rfl rfl ?_
    exact (h.columns right (List.mem_cons_of_mem _ (List.mem_singleton_self _))).respells hspell
      hrest
  | isIn operand values =>
    have hoperand := h.columns operand.source (List.mem_singleton_self _)
    cases values with
    | nil => exact absurd rfl (h.isIn operand)
    | cons first others =>
      simp only [respell, pieces, Fragment.glyphs_cons, List.append_assoc]
      refine respells_operand hspell hoperand (unlettered_letters rfl _) ?_
      exact respells_letters hspell rfl rfl (respells_bindList hspell first others hrest)
  | notIn operand values =>
    have hoperand := h.columns operand.source (List.mem_singleton_self _)
    cases values with
    | nil => exact absurd rfl (h.notIn operand)
    | cons first others =>
      simp only [respell, pieces, Fragment.glyphs_cons, List.append_assoc]
      refine respells_operand hspell hoperand (unlettered_letters rfl _) ?_
      exact respells_letters hspell rfl rfl (respells_bindList hspell first others hrest)
  | never =>
    simp only [respell, pieces, Fragment.glyphs_cons, Fragment.glyphs_nil, List.append_nil]
    exact respells_words hspell rfl hnext hrest

/-- A conjunction of legible conditions is respelled condition by condition. -/
theorem respells_conjunction (hspell : SparesKeywords spell) {predicates : List Predicate}
    (hne : predicates ≠ []) (h : ∀ predicate ∈ predicates, predicate.Legible)
    (hnext : Unlettered rest) (hrest : Respells spell rest respelled) :
    Respells spell ((conjunction predicates).glyphs dialect ++ rest)
      ((conjunction (predicates.map (Predicate.respell spell))).glyphs dialect ++ respelled) := by
  obtain ⟨first, others, rfl⟩ := List.exists_cons_of_ne_nil hne
  obtain ⟨hfirst, hothers⟩ := List.forall_mem_cons.mp h
  obtain ⟨hbehind, hlater⟩ := @respells_flatMap spell _ _ hspell _ others " AND "
    (fun predicate => Fragment.glyphs dialect predicate.pieces)
    (fun predicate => Fragment.glyphs dialect (predicate.respell spell).pieces) rfl rfl rfl
    (fun predicate hmem _ _ => (hothers predicate hmem).respells hspell) hnext hrest
  rw [List.map_cons, Fragment.glyphs_conjunction_cons, Fragment.glyphs_conjunction_cons,
    List.append_assoc, List.append_assoc, List.flatMap_map]
  exact hfirst.respells hspell hbehind hlater

/-- What follows the conditions of a legible query is respelled, and begins with no letter and no
digit. -/
theorem Query.Legible.respells_tail (hspell : SparesKeywords spell) {query : Query}
    (h : query.Legible) (projection : Projection) :
    Unlettered ((query.tail projection).glyphs dialect) ∧
      Respells spell ((query.tail projection).glyphs dialect)
        (((query.respell spell).tail projection).glyphs dialect) := by
  have hordering {rest respelled : List Glyph} (hrest : Respells spell rest respelled) :
      Unlettered (letters query.ordering ++ rest) ∧
        Respells spell (letters query.ordering ++ rest)
          (letters (query.respell spell).ordering ++ respelled) := by
    simp only [ordering, Query.respell, letters_append, List.append_assoc]
    refine ⟨unlettered_letters rfl _, respells_letters hspell rfl rfl ?_⟩
    exact h.orderBy.respells hspell (respells_letters hspell rfl rfl (h.id.respells hspell hrest))
  cases projection with
  | count => exact ⟨unlettered_nil, .nil⟩
  | ids => exact hordering .nil
  | page limit offset =>
    have hoffset : Respells spell (letters " OFFSET " ++ [.value (boundNumber offset)])
        (letters " OFFSET " ++ [.value (boundNumber offset)]) :=
      respells_letters hspell rfl rfl (.value unlettered_nil .nil)
    exact hordering (respells_letters hspell rfl rfl (.value (unlettered_letters rfl _) hoffset))

/-- Joins are respelled join by join before what begins with no letter and no digit, and begin
with none themselves. -/
theorem respells_joins (hspell : SparesKeywords spell) {joins : List LeftJoin}
    (h : ∀ join ∈ joins, join.Legible) (hnext : Unlettered rest)
    (hrest : Respells spell rest respelled) :
    Unlettered (joins.flatMap (fun join => Fragment.glyphs dialect join.pieces) ++ rest) ∧
      Respells spell (joins.flatMap (fun join => Fragment.glyphs dialect join.pieces) ++ rest)
        ((joins.map (LeftJoin.respell spell)).flatMap
          (fun join => Fragment.glyphs dialect join.pieces) ++ respelled) := by
  rw [List.flatMap_map]
  simp only [Fragment.glyphs_join]
  refine respells_flatMap hspell rfl rfl rfl (fun join hmem rest respelled hnext hrest => ?_) hnext
    hrest
  obtain ⟨htable, halias, hne, hon⟩ := h join hmem
  simp only [LeftJoin.respell, List.append_assoc]
  refine .word htable (unlettered_letters rfl _) (respells_letters hspell rfl rfl ?_)
  refine .word halias.1 (unlettered_letters rfl _) (respells_letters hspell rfl rfl ?_)
  exact respells_conjunction hspell hne hon hnext hrest

/-- **The glyphs of a respelled query are those of the query, respelled.** -/
theorem Query.Legible.respells (hspell : SparesKeywords spell) {query : Query} (h : query.Legible)
    (projection : Projection) :
    Respells spell ((query.pieces projection).glyphs dialect)
      (((query.respell spell).pieces projection).glyphs dialect) := by
  have hselected {rest respelled : List Glyph} (hrest : Respells spell rest respelled) :
      Respells spell (letters (query.selected projection) ++ rest)
        (letters ((query.respell spell).selected projection) ++ respelled) := by
    cases projection with
    | count =>
      simp only [selected]
      exact respells_letters hspell rfl rfl hrest
    | ids | page => exact h.id.respells hspell hrest
  obtain ⟨hnext, htail⟩ := h.respells_tail hspell projection
  have hwhere : Respells spell (letters " WHERE " ++ ((conjunction query.predicates).glyphs dialect ++
        (query.tail projection).glyphs dialect))
      (letters " WHERE " ++ ((conjunction (query.respell spell).predicates).glyphs dialect ++
        ((query.respell spell).tail projection).glyphs dialect)) :=
    respells_letters hspell rfl rfl (respells_conjunction hspell h.ne_nil h.predicates hnext htail)
  obtain ⟨hbehind, hjoins⟩ := respells_joins hspell h.joins (unlettered_letters rfl _) hwhere
  rw [glyphs_pieces, glyphs_pieces]
  refine respells_letters hspell rfl rfl (hselected (respells_letters hspell rfl rfl ?_))
  refine .word h.table (unlettered_letters rfl _) (respells_letters hspell rfl rfl ?_)
  exact .word h.tableAlias.1 hbehind hjoins

/-- **The text of a respelled query is the respelled text**, in both dialects and under every
projection, if the spelling spares the keywords. -/
theorem Query.Legible.sql_respell (hspell : SparesKeywords spell) {query : Query}
    (h : query.Legible) (dialect : Dialect) (projection : Projection) :
    (Statement.select (query.respell spell) dialect projection).sql =
      Sql.respell spell (Statement.select query dialect projection).sql := by
  have hrespells : Respells spell ((query.pieces projection).glyphs dialect) _ :=
    h.respells hspell projection
  have hwritten := hrespells.written hspell dialect 1
  rw [← Fragment.toList_text, ← Fragment.toList_text] at hwritten
  exact (String.toList_inj.mp (String.toList_ofList.trans hwritten)).symm

end Glyphs

end LogFilter.Sql
