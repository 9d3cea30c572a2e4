import LogFilter.Proofs.WrittenText

/-!
# Reading Conditions Back

What stands in the text of a query can be read back from its glyphs, together with what comes
after it. Names end at the first character that no name has, a column in quotes, a list of values
at its parenthesis. Where something may be left out, a cast or an escape character, what comes
after must not look like it.

A reader that gives back what was written shows that texts which begin with two things and agree
begin with one thing and agree in the rest. For lists of things this goes on from the left, as
long as what comes after the last one does not look like one more.

## Main definitions

* `skip`, `readName`, `readColumn`, `readOperand`, `readPredicate`: the readers.
* `Delimited`: texts that can be told from what comes after them.

## Main results

* `readPredicate_append`: a legible condition is read back.
* `Delimited.flatMap`: lists of delimited things are delimited.
* `delimited_conjunction`, `delimited_join`: conjunctions and joins are delimited.
-/

namespace LogFilter.Sql

/-! ### Words and names -/

/-- What comes after some words, if glyphs begin with them. -/
def skip (words : String) (glyphs : List Glyph) : Option (List Glyph) :=
  glyphs.dropPrefix? (letters words)

/-- Words are skipped. -/
@[simp] theorem skip_append (words : String) (rest : List Glyph) :
    skip words (letters words ++ rest) = some rest :=
  List.dropPrefix?_append_of_beq rest (beq_self_eq_true _)

/-- What is skipped stands at the beginning. -/
theorem skip_eq_some {words : String} {glyphs rest : List Glyph}
    (h : skip words glyphs = some rest) : glyphs = letters words ++ rest := by
  obtain ⟨front, hglyphs, hfront⟩ := List.dropPrefix?_eq_some_iff.mp h
  rw [hglyphs, eq_of_beq hfront]

/-- Words are not taken for others, unless one begins with the other. -/
theorem skip_other {words other : String} (h : words.toList.isPrefixOf other.toList = false)
    (h' : other.toList.isPrefixOf words.toList = false) (rest : List Glyph) :
    skip words (letters other ++ rest) = none := by
  have hchars {a b : String} (hab : letters a <+: letters b) :
      a.toList.isPrefixOf b.toList = true :=
    List.isPrefixOf_iff_prefix.mpr
      ((List.prefix_map_iff_of_injective fun _ _ hsame => Glyph.char.inj hsame).mp hab)
  refine Option.eq_none_iff_forall_ne_some.mpr fun after hskip => ?_
  have hprefix : letters words <+: letters other ++ rest := ⟨after, (skip_eq_some hskip).symm⟩
  rcases List.prefix_or_prefix_of_prefix hprefix (List.prefix_append _ rest) with hfront | hback
  · rw [hchars hfront] at h
    cases h
  · rw [hchars hback] at h'
    cases h'

/-- Words are not taken for what begins with a lower-case letter, unless they do, too. -/
theorem skip_lower {words : String} (h : words.toList.head?.any (fun c => !c.isLower) = true)
    {c : Char} (hc : c.isLower = true) (rest : List Glyph) :
    skip words (.char c :: rest) = none := by
  refine Option.eq_none_iff_forall_ne_some.mpr fun after hskip => ?_
  have hsame := skip_eq_some hskip
  unfold letters at hsame
  cases hwords : words.toList with
  | nil => rw [hwords] at h; cases h
  | cons d ds =>
    rw [hwords] at h hsame
    obtain rfl : c = d := Glyph.char.inj (List.cons.inj hsame).1
    simp [hc] at h

/-- Reads a name, which ends before a character that is not a part of it. -/
def readName (stop : Char) : List Glyph → Option (List Char × List Glyph)
  | .char c :: rest =>
      if c = stop then some ([], rest)
      else (readName stop rest).map fun (name, after) => (c :: name, after)
  | _ => none

/-- A name is read back. -/
theorem readName_append {stop : Char} {name : String} (h : stop ∉ name.toList)
    (rest : List Glyph) :
    readName stop (letters name ++ .char stop :: rest) = some (name.toList, rest) := by
  have hchars {cs : List Char} (hcs : stop ∉ cs) :
      readName stop (cs.map .char ++ .char stop :: rest) = some (cs, rest) := by
    induction cs with
    | nil => exact if_pos rfl
    | cons c cs ih =>
      obtain ⟨hne, hcs⟩ := not_or.mp (List.mem_cons.not.mp hcs)
      rw [List.map_cons, List.cons_append, readName, if_neg (Ne.symm hne), ih hcs]
      rfl
  exact hchars h

/-- Legible names that are written before one such character, with texts that agree, are one
name, and the texts agree after it. -/
theorem LegibleName.append_inj {a b : String} (ha : LegibleName a) (hb : LegibleName b)
    (stop : Char) (hstop : stop.isAlphanum = false) {s t : List Glyph}
    (h : letters a ++ .char stop :: s = letters b ++ .char stop :: t) : a = b ∧ s = t := by
  have hread := congrArg (readName stop) h
  rw [readName_append (ha.not_mem stop hstop), readName_append (hb.not_mem stop hstop)] at hread
  obtain ⟨hname, hrest⟩ := Prod.mk.inj (Option.some.inj hread)
  exact ⟨String.toList_inj.mp hname, hrest⟩

/-! ### Columns, operands and values -/

/-- Reads a column. -/
def readColumn (glyphs : List Glyph) : Option (Column × List Glyph) := do
  let (tableAlias, rest) ← readName '.' glyphs
  let rest ← skip "\"" rest
  let (name, rest) ← readName '"' rest
  return (⟨String.ofList tableAlias, String.ofList name⟩, rest)

/-- A legible column is read back. -/
theorem readColumn_append {column : Column} (h : column.Legible) (rest : List Glyph) :
    readColumn (letters column.qualified ++ rest) = some (column, rest) := by
  have hwritten : letters column.qualified ++ rest = letters column.tableAlias ++ .char '.' ::
      (letters "\"" ++ (letters column.name ++ .char '"' :: rest)) := by
    simp only [Column.qualified, letters_append, List.append_assoc]
    rfl
  rw [hwritten, readColumn, readName_append (h.tableAlias.1.not_mem '.' rfl), Option.bind_eq_bind,
    Option.bind_some]
  simp [readName_append (h.name.not_mem '"' rfl)]

/-- Reads an operand. -/
def readOperand (dialect : Dialect) (glyphs : List Glyph) : Option (Operand × List Glyph) :=
  match dialect with
  | .postgres => do
      let (column, rest) ← readColumn glyphs
      match skip "::text" rest with
      | some rest => return (.text column, rest)
      | none => return (.column column, rest)
  | .sqlite =>
      match skip "CAST(" glyphs with
      | some inner => do
          let (column, rest) ← readColumn inner
          let rest ← skip " AS TEXT)" rest
          return (.text column, rest)
      | none => do
          let (column, rest) ← readColumn glyphs
          return (.column column, rest)

/-- A legible column begins with a lower-case letter. -/
theorem Column.Legible.exists_lower {column : Column} (h : column.Legible) (rest : List Glyph) :
    ∃ c after, letters column.qualified ++ rest = .char c :: after ∧ c.isLower = true := by
  obtain ⟨c, cs, hchars, hc⟩ := h.tableAlias.2
  refine ⟨c, cs.map .char ++ (letters ".\"" ++ (letters column.name ++ (letters "\"" ++ rest))),
    ?_, hc⟩
  simp only [qualified, letters_append, List.append_assoc]
  rw [letters, hchars]
  rfl

/-- A legible operand is read back, if no cast comes after it. -/
theorem readOperand_append {operand : Operand} (h : operand.source.Legible) (dialect : Dialect)
    {rest : List Glyph} (hrest : skip "::text" rest = none) :
    readOperand dialect (operand.piece.glyphs dialect ++ rest) = some (operand, rest) := by
  cases operand with
  | column source =>
    have hcolumn : readColumn (letters source.qualified ++ rest) = some (source, rest) :=
      readColumn_append h rest
    cases dialect with
    | postgres => simp [readOperand, Operand.piece, Piece.glyphs, hcolumn, hrest]
    | sqlite =>
      obtain ⟨c, after, hfirst, hc⟩ := h.exists_lower rest
      have hcast : skip "CAST(" (letters source.qualified ++ rest) = none :=
        (congrArg (skip "CAST(") hfirst).trans (skip_lower rfl hc after)
      simp [readOperand, Operand.piece, Piece.glyphs, hcolumn, hcast]
  | text source =>
    have hcolumn (rest : List Glyph) :
        readColumn (letters source.qualified ++ rest) = some (source, rest) :=
      readColumn_append h rest
    cases dialect <;>
      simp [readOperand, Operand.piece, Piece.glyphs, Dialect.textCast, hcolumn]

/-- Reads a value. -/
def readValue : List Glyph → Option (Scalar × List Glyph)
  | .value content :: rest => some (content, rest)
  | _ => none

/-- Reads values up to the parenthesis after them. -/
def readValues : List Glyph → Option (List Scalar × List Glyph)
  | .value content :: .char ')' :: rest => some ([content], rest)
  | .value content :: .char ',' :: .char ' ' :: rest =>
      (readValues rest).map fun (others, after) => (content :: others, after)
  | _ => none

/-- Values are read back. -/
theorem readValues_append (first : Scalar) (others : List Scalar) (rest : List Glyph) :
    readValues (.value first ::
        ((others.flatMap fun value => letters ", " ++ [.value value]) ++ (letters ")" ++ rest))) =
      some (first :: others, rest) := by
  induction others generalizing first with
  | nil => rfl
  | cons next others ih =>
    have hread : readValues (.value first :: .char ',' :: .char ' ' :: (.value next ::
        ((others.flatMap fun value => letters ", " ++ [.value value]) ++
          (letters ")" ++ rest)))) = some (first :: next :: others, rest) := by
      rw [readValues, ih]
      rfl
    rw [List.flatMap_cons, List.append_assoc]
    exact hread

/-- Reads a pattern, with its escape character if it has one. -/
def readPattern : List Glyph → Option (LikePattern × List Glyph)
  | .value (.text pattern) :: rest =>
      match skip " ESCAPE '\\'" rest with
      | some rest => some (⟨pattern, true⟩, rest)
      | none => some (⟨pattern, false⟩, rest)
  | _ => none

/-- A pattern is read back, if no escape character comes after it. -/
theorem readPattern_append (dialect : Dialect) (pattern : LikePattern) {rest : List Glyph}
    (hrest : skip " ESCAPE '\\'" rest = none) :
    readPattern (Fragment.glyphs dialect pattern.pieces ++ rest) = some (pattern, rest) := by
  obtain ⟨pattern, escaped⟩ := pattern
  rw [Fragment.glyphs_pattern]
  cases escaped <;> simp [readPattern, hrest]

/-! ### Conditions -/

/-- Reads what comes after the operand of a condition. -/
def readComparison (operand : Operand) (glyphs : List Glyph) :
    Option (Predicate × List Glyph) :=
  (do
    let (value, rest) ← readValue (← skip " = " glyphs)
    return (.eq operand value, rest)) <|>
  (do
    let (right, rest) ← readColumn (← skip " = " glyphs)
    return (.columnsEq operand.source right, rest)) <|>
  (do
    let (value, rest) ← readValue (← skip " IS DISTINCT FROM " glyphs)
    return (.distinctFrom operand value, rest)) <|>
  (do
    let (pattern, rest) ← readPattern (← skip " LIKE " glyphs)
    return (.like operand pattern, rest)) <|>
  (do
    let (values, rest) ← readValues (← skip " IN (" glyphs)
    return (.isIn operand values, rest)) <|>
  (do
    let (values, rest) ← readValues (← skip " NOT IN (" glyphs)
    return (.notIn operand values, rest))

/-- Reads a **condition**. -/
def readPredicate (dialect : Dialect) (glyphs : List Glyph) : Option (Predicate × List Glyph) :=
  (do
    let rest ← skip "1 = 0" glyphs
    return (.never, rest)) <|>
  (do
    let (operand, rest) ← readOperand dialect (← skip "(" glyphs)
    let (pattern, rest) ← readPattern (← skip " NOT LIKE " rest)
    let (_, rest) ← readOperand dialect (← skip " OR " rest)
    let rest ← skip " IS NULL)" rest
    return (.notLikeOrNull operand pattern, rest)) <|>
  (do
    let (operand, rest) ← readOperand dialect glyphs
    readComparison operand rest)

/-- An operand is not taken for words of another kind. -/
theorem skip_operand {operand : Operand} (h : operand.source.Legible) (dialect : Dialect)
    {words : String} (hfirst : words.toList.head?.any (fun c => !c.isLower) = true)
    (hcast : words.toList.isPrefixOf "CAST(".toList = false)
    (hcast' : "CAST(".toList.isPrefixOf words.toList = false) (rest : List Glyph) :
    skip words (operand.piece.glyphs dialect ++ rest) = none := by
  have hcolumn (after : List Glyph) :
      skip words (letters operand.source.qualified ++ after) = none := by
    obtain ⟨c, tail, hchars, hc⟩ := h.exists_lower after
    rw [hchars]
    exact skip_lower hfirst hc tail
  cases operand with
  | column source => exact hcolumn rest
  | text source =>
    cases dialect with
    | postgres =>
      simp only [Operand.piece, Piece.glyphs, Dialect.textCast, letters_append, List.append_assoc]
      exact hcolumn _
    | sqlite =>
      simp only [Operand.piece, Piece.glyphs, Dialect.textCast, letters_append, List.append_assoc]
      exact skip_other hcast hcast' _

/-- What begins with an operand is read as a comparison of it. -/
theorem readPredicate_operand {operand : Operand} (h : operand.source.Legible)
    (dialect : Dialect) {rest : List Glyph} (hrest : skip "::text" rest = none) :
    readPredicate dialect (operand.piece.glyphs dialect ++ rest) =
      readComparison operand rest := by
  have hnever : skip "1 = 0" (operand.piece.glyphs dialect ++ rest) = none :=
    skip_operand h dialect rfl rfl rfl rest
  have hgroup : skip "(" (operand.piece.glyphs dialect ++ rest) = none :=
    skip_operand h dialect rfl rfl rfl rest
  simp [readPredicate, hnever, hgroup, readOperand_append h dialect hrest]

/-- **A legible condition is read back**, if no escape character comes after it. -/
theorem readPredicate_append {predicate : Predicate} (h : predicate.Legible) (dialect : Dialect)
    {rest : List Glyph} (hrest : skip " ESCAPE '\\'" rest = none) :
    readPredicate dialect (Fragment.glyphs dialect predicate.pieces ++ rest) =
      some (predicate, rest) := by
  cases predicate with
  | eq operand value =>
    have hoperand := h.columns operand.source (List.mem_singleton_self _)
    simp only [Predicate.pieces, Fragment.glyphs_cons, Piece.glyphs_words, List.append_assoc]
    rw [readPredicate_operand hoperand dialect (skip_other rfl rfl _)]
    simp [readComparison, readValue]
  | distinctFrom operand value =>
    have hoperand := h.columns operand.source (List.mem_singleton_self _)
    simp only [Predicate.pieces, Fragment.glyphs_cons, Piece.glyphs_words, List.append_assoc]
    rw [readPredicate_operand hoperand dialect (skip_other rfl rfl _)]
    simp (disch := decide) [readComparison, readValue, skip_other]
  | like operand pattern =>
    have hoperand := h.columns operand.source (List.mem_singleton_self _)
    have hpattern := readPattern_append dialect pattern hrest
    simp only [Predicate.pieces, Fragment.glyphs_cons, Piece.glyphs_words, List.append_assoc]
    rw [readPredicate_operand hoperand dialect (skip_other rfl rfl _)]
    simp (disch := decide) [readComparison, hpattern, skip_other]
  | notLikeOrNull operand pattern =>
    have hoperand := h.columns operand.source (List.mem_singleton_self _)
    have hlike (after : List Glyph) : readOperand dialect (operand.piece.glyphs dialect ++
        (letters " NOT LIKE " ++ after)) = some (operand, letters " NOT LIKE " ++ after) :=
      readOperand_append hoperand dialect (skip_other rfl rfl after)
    have hnull : readOperand dialect (operand.piece.glyphs dialect ++
        (letters " IS NULL)" ++ rest)) = some (operand, letters " IS NULL)" ++ rest) :=
      readOperand_append hoperand dialect (skip_other rfl rfl rest)
    have hpattern (after : List Glyph) :
        readPattern (Fragment.glyphs dialect pattern.pieces ++ (letters " OR " ++ after)) =
          some (pattern, letters " OR " ++ after) :=
      readPattern_append dialect pattern (skip_other rfl rfl after)
    have hnever (after : List Glyph) : skip "1 = 0" (letters "(" ++ after) = none :=
      skip_other rfl rfl after
    simp only [Predicate.pieces, Fragment.glyphs_cons, Fragment.glyphs_append, List.cons_append,
      Piece.glyphs_words, Fragment.glyphs_nil, List.nil_append, List.append_assoc]
    simp [readPredicate, hnever, hlike, hpattern, hnull]
  | columnsEq left right =>
    have hleft : (Operand.column left).source.Legible := h.columns left List.mem_cons_self
    have hright : right.Legible :=
      h.columns right (List.mem_cons_of_mem _ (List.mem_singleton_self _))
    obtain ⟨c, after, hfirst, -⟩ := hright.exists_lower rest
    have hvalue : readValue (letters right.qualified ++ rest) = none := by rw [hfirst]; rfl
    -- It begins as an equality with a value does, and goes on with a column.
    have hwritten : Fragment.glyphs dialect (Predicate.columnsEq left right).pieces ++ rest =
        (Operand.column left).piece.glyphs dialect ++
          (letters " = " ++ (letters right.qualified ++ rest)) := by
      simp [Predicate.pieces, Operand.piece]
    rw [hwritten, readPredicate_operand hleft dialect (skip_other rfl rfl _)]
    simp [readComparison, hvalue, readColumn_append hright, Operand.source]
  | isIn operand values =>
    have hoperand := h.columns operand.source (List.mem_singleton_self _)
    cases values with
    | nil => exact absurd rfl (h.isIn operand)
    | cons first others =>
      have hvalues := readValues_append first others rest
      simp only [Predicate.pieces, Fragment.glyphs_cons, Piece.glyphs_words,
        Fragment.glyphs_bindList_cons, List.append_assoc, List.cons_append]
      rw [readPredicate_operand hoperand dialect (skip_other rfl rfl _),
        ← List.append_assoc (letters " IN "), ← letters_append]
      simp (disch := decide) [readComparison, hvalues, skip_other]
  | notIn operand values =>
    have hoperand := h.columns operand.source (List.mem_singleton_self _)
    cases values with
    | nil => exact absurd rfl (h.notIn operand)
    | cons first others =>
      have hvalues := readValues_append first others rest
      simp only [Predicate.pieces, Fragment.glyphs_cons, Piece.glyphs_words,
        Fragment.glyphs_bindList_cons, List.append_assoc, List.cons_append]
      rw [readPredicate_operand hoperand dialect (skip_other rfl rfl _),
        ← List.append_assoc (letters " NOT IN "), ← letters_append]
      simp (disch := decide) [readComparison, hvalues, skip_other]
  | never => simp [readPredicate, Predicate.pieces]

/-! ### Texts that begin with the same thing -/

/-- Texts that begin with the same words and agree do so after them. -/
theorem letters_cancel (words : String) {s t : List Glyph}
    (h : letters words ++ s = letters words ++ t) : s = t :=
  List.append_cancel_left h

/-- Whether what is written can be **told from what comes after it**: of two texts that agree and
begin with good things, these are one, and what comes after them agrees. -/
def Delimited {α : Type} (write : α → List Glyph) (good : α → Prop) (ends : List Glyph → Prop) :
    Prop :=
  ∀ {a b : α} {s t : List Glyph}, good a → good b → ends s → ends t →
    write a ++ s = write b ++ t → a = b ∧ s = t

/-- A legible condition can be told from what comes after it, if that is no escape character. -/
theorem delimited_predicate (dialect : Dialect) :
    Delimited (fun predicate : Predicate => Fragment.glyphs dialect predicate.pieces)
      Predicate.Legible (fun rest => skip " ESCAPE '\\'" rest = none) := by
  intro p q s t hp hq hs ht h
  have hread := congrArg (readPredicate dialect) h
  rw [readPredicate_append hp dialect hs, readPredicate_append hq dialect ht] at hread
  exact Prod.mk.inj (Option.some.inj hread)

/-- Things that can be told from what comes after them can so in a row, each behind the same
words, if what comes after the last one does not begin with these words. -/
theorem Delimited.flatMap {α : Type} {write : α → List Glyph} {good : α → Prop}
    {ends : List Glyph → Prop} (hwrite : Delimited write good ends) {words : String}
    (hwords : ∀ rest, ends (letters words ++ rest)) :
    Delimited (List.flatMap fun item => letters words ++ write item)
      (fun items => ∀ item ∈ items, good item)
      (fun rest => ends rest ∧ skip words rest = none) := by
  have hends (items : List α) {rest : List Glyph} (hrest : ends rest) :
      ends (items.flatMap (fun item => letters words ++ write item) ++ rest) := by
    cases items with
    | nil => exact hrest
    | cons item items =>
      rw [List.flatMap_cons, List.append_assoc, List.append_assoc]
      exact hwords _
  have hnone {items : List α} {s t : List Glyph} (ht : skip words t = none)
      (h : items.flatMap (fun item => letters words ++ write item) ++ s = t) : items = [] := by
    cases items with
    | nil => rfl
    | cons item items =>
      rw [← h, List.flatMap_cons, List.append_assoc, List.append_assoc, skip_append] at ht
      cases ht
  -- Both lists are read in step. Where one ends, the other does: what comes after the last item
  -- does not begin with the words.
  intro as bs s t has hbs hs ht h
  induction as generalizing bs with
  | nil =>
    obtain rfl := hnone hs.2 h.symm
    exact ⟨rfl, h⟩
  | cons a as ih =>
    cases bs with
    | nil => exact absurd (hnone ht.2 h) (List.cons_ne_nil a as)
    | cons b bs =>
      obtain ⟨ha, hlaterAs⟩ := List.forall_mem_cons.mp has
      obtain ⟨hb, hlaterBs⟩ := List.forall_mem_cons.mp hbs
      simp only [List.flatMap_cons, List.append_assoc] at h
      obtain ⟨rfl, hlater⟩ := hwrite ha hb (hends as hs.1) (hends bs ht.1)
        (List.append_cancel_left h)
      obtain ⟨rfl, hrest⟩ := ih hlaterAs hlaterBs hlater
      exact ⟨rfl, hrest⟩

/-- Whether what comes after a conjunction is neither an escape character nor one more
condition. -/
def EndsConjunction (rest : List Glyph) : Prop :=
  skip " ESCAPE '\\'" rest = none ∧ skip " AND " rest = none

/-- Other words end a conjunction. -/
theorem endsConjunction_letters {words : String}
    (hescape : " ESCAPE '\\'".toList.isPrefixOf words.toList = false)
    (hescape' : words.toList.isPrefixOf " ESCAPE '\\'".toList = false)
    (hand : " AND ".toList.isPrefixOf words.toList = false)
    (hand' : words.toList.isPrefixOf " AND ".toList = false) (rest : List Glyph) :
    EndsConjunction (letters words ++ rest) :=
  ⟨skip_other hescape hescape' rest, skip_other hand hand' rest⟩

/-- **A conjunction of legible conditions can be told from what comes after it.** -/
theorem delimited_conjunction (dialect : Dialect) :
    Delimited (fun predicates => Fragment.glyphs dialect (conjunction predicates))
      (fun predicates => predicates ≠ [] ∧ ∀ predicate ∈ predicates, predicate.Legible)
      EndsConjunction := by
  have hand (rest : List Glyph) : skip " ESCAPE '\\'" (letters " AND " ++ rest) = none :=
    skip_other rfl rfl rest
  have hbehind (predicates : List Predicate) {rest : List Glyph} (hrest : EndsConjunction rest) :
      skip " ESCAPE '\\'" (predicates.flatMap (fun predicate =>
        letters " AND " ++ Fragment.glyphs dialect predicate.pieces) ++ rest) = none := by
    cases predicates with
    | nil => exact hrest.1
    | cons predicate predicates =>
      rw [List.flatMap_cons, List.append_assoc, List.append_assoc]
      exact hand _
  rintro ps qs s t ⟨hne, hlegible⟩ ⟨hne', hlegible'⟩ hs ht h
  obtain ⟨p, ps, rfl⟩ := List.exists_cons_of_ne_nil hne
  obtain ⟨q, qs, rfl⟩ := List.exists_cons_of_ne_nil hne'
  obtain ⟨hp, hps⟩ := List.forall_mem_cons.mp hlegible
  obtain ⟨hq, hqs⟩ := List.forall_mem_cons.mp hlegible'
  simp only [Fragment.glyphs_conjunction_cons, List.append_assoc] at h
  obtain ⟨rfl, hlater⟩ := delimited_predicate dialect hp hq (hbehind ps hs) (hbehind qs ht) h
  obtain ⟨rfl, hrest⟩ :=
    Delimited.flatMap (delimited_predicate dialect) hand hps hqs hs ht hlater
  exact ⟨rfl, hrest⟩

/-- What is written of a join after the words that begin it. -/
def LeftJoin.described (dialect : Dialect) (join : LeftJoin) : List Glyph :=
  letters join.table ++ (letters "\" AS " ++ (letters join.tableAlias ++ (letters " ON " ++
    Fragment.glyphs dialect (conjunction join.on))))

/-- **A legible join can be told from what comes after it.** -/
theorem delimited_join (dialect : Dialect) :
    Delimited (LeftJoin.described dialect) LeftJoin.Legible EndsConjunction := by
  rintro ⟨table, name, on⟩ ⟨table', name', on'⟩ s t hj hk hs ht h
  simp only [LeftJoin.described, List.append_assoc] at h
  obtain ⟨htable, hnamed⟩ := hj.table.append_inj hk.table '"' rfl h
  have hnamed := letters_cancel " AS " hnamed
  obtain ⟨hname, hconditions⟩ := hj.tableAlias.1.append_inj hk.tableAlias.1 ' ' rfl hnamed
  have hconditions := letters_cancel "ON " hconditions
  obtain ⟨hon, hrest⟩ := delimited_conjunction dialect ⟨hj.ne_nil, hj.on⟩ ⟨hk.ne_nil, hk.on⟩ hs
    ht hconditions
  obtain rfl : table = table' := htable
  obtain rfl : name = name' := hname
  obtain rfl : on = on' := hon
  exact ⟨rfl, hrest⟩

end LogFilter.Sql
