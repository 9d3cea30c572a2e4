import LogFilter.Proofs.Placeholders
import LogFilter.Proofs.ReadingBack

/-!
# Faithful Text

The text of a compiled query and its parameters determine the query: the base table, the joins
with their conditions, the conditions in order with their operands and patterns, and what is
wanted of the rows. Only bounds of a page beyond the largest number that can be bound are not told
apart.

The text gives the glyphs, because places are numbered alike and are not taken for words. The
glyphs are then read from the left, where each part can be told from what comes after it. The
table tells the subject, and the subject tells what is in no text, the columns of id and order
where rows are only counted.

## Main results

* `Clear.eq_of_written`: text and values determine clear glyphs.
* `Query.Legible.parts_eq`: glyphs determine the parts of a legible query.
* `Subject.select_inj`: text and parameters determine a compiled query and its projection.
* `Subject.execute_eq_of_written`: what is executed is the text with its parameters.
-/

namespace LogFilter.Sql

/-! ### From texts to glyphs -/

/-- **Text and values determine clear glyphs**, since places are numbered from the left. -/
theorem Clear.eq_of_written {a b : List Glyph} (ha : Clear a) (hb : Clear b) (dialect : Dialect)
    {next : Nat} (htext : Glyph.written dialect next a = Glyph.written dialect next b)
    (hvalues : Glyph.values a = Glyph.values b) : a = b := by
  have hmark : isMark dialect.mark = true := by cases dialect <;> rfl
  -- The place of a value is written with a mark in front, and no clear character is one. So the
  -- two lists have a character or a place at once, and places have the same number.
  induction ha generalizing b next with
  | nil =>
    cases hb with
    | nil => rfl
    | char => cases htext
    | value => cases hvalues
  | @char c rest hc _ ih =>
    cases hb with
    | nil => cases htext
    | char _ hrest =>
      obtain ⟨rfl, hafter⟩ := List.cons.inj htext
      rw [ih hrest hafter hvalues]
    | value _ _ =>
      rw [Glyph.written, Glyph.written, dialect.toList_placeholder] at htext
      rw [(List.cons.inj htext).1, hmark] at hc
      cases hc
  | value _ _ ih =>
    cases hb with
    | nil => cases hvalues
    | char hc _ =>
      rw [Glyph.written, Glyph.written, dialect.toList_placeholder] at htext
      rw [← (List.cons.inj htext).1, hmark] at hc
      cases hc
    | value _ hrest =>
      obtain ⟨rfl, hothers⟩ := List.cons.inj hvalues
      rw [ih hrest (List.append_cancel_left htext) hothers]

/-! ### From glyphs to the parts of a query -/

/-- Whether rows are only counted. -/
def Projection.isCount (projection : Projection) : Bool := projection == .count

/-- To bind a projection as it is bound changes nothing. -/
theorem Projection.clamped_clamped (projection : Projection) :
    projection.clamped.clamped = projection.clamped := by
  cases projection with
  | ids | count => rfl
  | page limit offset => simp only [clamped, Nat.min_assoc, Nat.min_self]

/-- What comes after the conditions is written as under the projection that is bound. -/
theorem Query.tail_clamped (query : Query) (projection : Projection) :
    query.tail projection.clamped = query.tail projection := by
  cases projection with
  | ids | count => rfl
  | page limit offset =>
    simp only [tail, Projection.clamped, boundNumber, Nat.min_assoc, Nat.min_self]

/-- A query is written as under the projection that is bound. -/
theorem Query.pieces_clamped (query : Query) (projection : Projection) :
    query.pieces projection.clamped = query.pieces projection := by
  have hhead : query.head projection.clamped = query.head projection := by
    cases projection <;> rfl
  rw [pieces, pieces, hhead, tail_clamped]

/-- A query is executed as under the projection that is bound. -/
theorem Query.execute_clamped (engine : Engine) (tables : Tables) (query : Query)
    (projection : Projection) :
    query.execute engine tables projection.clamped = query.execute engine tables projection := by
  have hcheck : query.check projection.clamped = query.check projection := by
    rw [check, check, readPieces, readPieces, tail_clamped, pieces_clamped]
  have hempty : projection.clamped.isEmpty = projection.isEmpty := by
    cases projection with
    | ids | count => rfl
    | page limit offset =>
      have hzero : min limit maxBound = 0 ↔ limit = 0 := by
        have hlarge : 0 < maxBound := by decide
        omega
      rw [Bool.eq_iff_iff, Projection.clamped, Projection.isEmpty, Projection.isEmpty, beq_iff_eq,
        beq_iff_eq, hzero]
  rw [execute, execute, hcheck, scan, scan, hempty, result, result, projection.clamped_clamped]

/-- Bounds that are bound alike are alike up to the largest number. -/
theorem boundNumber_inj {m n : Nat} (h : boundNumber m = boundNumber n) :
    min m maxBound = min n maxBound :=
  Int.ofNat_inj.mp (Scalar.integer.inj h)

/-- What comes after the conditions tells what is wanted of the rows, where it is known whether
they are only counted. -/
theorem tail_inj {q r : Query} (horder : q.ordering = r.ordering) {p p' : Projection}
    (hcount : p.isCount = p'.isCount) {dialect : Dialect}
    (h : (q.tail p).glyphs dialect = (r.tail p').glyphs dialect) : p.clamped = p'.clamped := by
  cases p with
  | count =>
    cases p' with
    | count => rfl
    | ids | page => cases hcount
  | ids =>
    cases p' with
    | count => cases hcount
    | ids => rfl
    | page limit offset =>
      simp only [Query.tail, Fragment.glyphs_cons, Piece.glyphs_words, horder] at h
      exact absurd (letters_cancel r.ordering h).symm (List.cons_ne_nil _ _)
  | page limit offset =>
    cases p' with
    | count => cases hcount
    | ids =>
      simp only [Query.tail, Fragment.glyphs_cons, Piece.glyphs_words, horder] at h
      exact absurd (letters_cancel r.ordering h) (List.cons_ne_nil _ _)
    | page limit' offset' =>
      simp only [Query.tail, Fragment.glyphs_cons, Piece.glyphs_words, Piece.glyphs_bind, horder,
        List.singleton_append] at h
      have hbounds := letters_cancel " LIMIT " (letters_cancel r.ordering h)
      obtain ⟨hlimit, hoffsets⟩ := List.cons.inj hbounds
      obtain ⟨hoffset, -⟩ := List.cons.inj (letters_cancel " OFFSET " hoffsets)
      rw [Projection.clamped, Projection.clamped, boundNumber_inj (Glyph.value.inj hlimit),
        boundNumber_inj (Glyph.value.inj hoffset)]

/-- What comes after the conditions of a query ends them. -/
theorem endsConjunction_tail (query : Query) (projection : Projection) (dialect : Dialect) :
    EndsConjunction ((query.tail projection).glyphs dialect) := by
  have hordering (rest : List Glyph) : EndsConjunction (letters query.ordering ++ rest) := by
    simp only [Query.ordering, letters_append, List.append_assoc]
    exact endsConjunction_letters rfl rfl rfl rfl _
  cases projection with
  | count => exact ⟨rfl, rfl⟩
  | ids | page => exact hordering _

/-- Joins and conditions begin with a blank. -/
theorem exists_blank (dialect : Dialect) (joins : List LeftJoin) (rest : List Glyph) :
    ∃ after, joins.flatMap (fun join => Fragment.glyphs dialect join.pieces) ++
      (letters " WHERE " ++ rest) = .char ' ' :: after := by
  cases joins with
  | nil => exact ⟨_, rfl⟩
  | cons join joins =>
    rw [List.flatMap_cons, Fragment.glyphs_join]
    exact ⟨_, rfl⟩

/-- What is selected tells whether rows are only counted. -/
theorem selected_inj {q r : Query} (hq : q.id.Legible) (hr : r.id.Legible) {p p' : Projection}
    {s t : List Glyph}
    (h : letters (q.selected p) ++ s = letters (r.selected p') ++ t) :
    p.isCount = p'.isCount ∧ s = t := by
  have hcolumns {s t : List Glyph}
      (h : letters q.id.qualified ++ s = letters r.id.qualified ++ t) : s = t := by
    have hread := congrArg readColumn h
    rw [readColumn_append hq, readColumn_append hr] at hread
    exact (Prod.mk.inj (Option.some.inj hread)).2
  have hupper {column : Column} (hcolumn : column.Legible) {s t : List Glyph}
      (h : letters "COUNT(*)" ++ s = letters column.qualified ++ t) : False := by
    obtain ⟨c, after, hchars, hc⟩ := hcolumn.exists_lower t
    rw [hchars] at h
    obtain rfl : 'C' = c := Glyph.char.inj (List.cons.inj h).1
    exact absurd hc (by decide)
  have hselected (query : Query) (projection : Projection) : query.selected projection =
      if projection.isCount then "COUNT(*)" else query.id.qualified := by
    cases projection <;> rfl
  rw [hselected, hselected] at h
  cases hp : p.isCount <;> cases hp' : p'.isCount <;> rw [hp, hp'] at h
  case false.false => exact ⟨rfl, hcolumns h⟩
  case false.true => exact (hupper hq h.symm).elim
  case true.false => exact (hupper hr h).elim
  case true.true => exact ⟨rfl, letters_cancel "COUNT(*)" h⟩

/-- **Glyphs determine the parts of a legible query**: its table, its joins, its conditions, and
what comes after them. -/
theorem Query.Legible.parts_eq {q r : Query} (hq : q.Legible) (hr : r.Legible)
    {p p' : Projection} {dialect : Dialect}
    (h : (q.pieces p).glyphs dialect = (r.pieces p').glyphs dialect) :
    p.isCount = p'.isCount ∧ q.table = r.table ∧ q.joins = r.joins ∧
      q.predicates = r.predicates ∧
      (q.tail p).glyphs dialect = (r.tail p').glyphs dialect := by
  rw [glyphs_pieces, glyphs_pieces] at h
  obtain ⟨hcount, h⟩ := selected_inj hq.id hr.id (letters_cancel "SELECT " h)
  obtain ⟨htable, h⟩ := hq.table.append_inj hr.table '"' rfl (letters_cancel " FROM \"" h)
  have h := letters_cancel " AS " h
  obtain ⟨after, hafter⟩ := exists_blank dialect q.joins
    ((conjunction q.predicates).glyphs dialect ++ (q.tail p).glyphs dialect)
  obtain ⟨after', hafter'⟩ := exists_blank dialect r.joins
    ((conjunction r.predicates).glyphs dialect ++ (r.tail p').glyphs dialect)
  rw [hafter, hafter'] at h
  -- The blank that ends the alias belongs to the first join, or to the conditions if there is
  -- none, and goes back to them.
  obtain ⟨-, hblank⟩ := hq.tableAlias.1.append_inj hr.tableAlias.1 ' ' rfl h
  have hbody := hafter.trans ((congrArg (Glyph.char ' ' :: ·) hblank).trans hafter'.symm)
  simp only [Fragment.glyphs_join] at hbody
  have hends (rest : List Glyph) : EndsConjunction (letters " WHERE " ++ rest) ∧
      skip " LEFT JOIN \"" (letters " WHERE " ++ rest) = none :=
    ⟨endsConjunction_letters rfl rfl rfl rfl rest, skip_other rfl rfl rest⟩
  obtain ⟨hjoins, hwhere⟩ := Delimited.flatMap (delimited_join dialect)
    (endsConjunction_letters rfl rfl rfl rfl) hq.joins hr.joins (hends _) (hends _) hbody
  obtain ⟨hpredicates, htail⟩ := delimited_conjunction dialect ⟨hq.ne_nil, hq.predicates⟩
    ⟨hr.ne_nil, hr.predicates⟩ (endsConjunction_tail q p dialect)
    (endsConjunction_tail r p' dialect) (letters_cancel " WHERE " hwhere)
  exact ⟨hcount, htable, hjoins, hpredicates, htail⟩

end LogFilter.Sql

namespace LogFilter.Subject

open Sql

/-- The base table tells the subject. -/
theorem table_inj {subject subject' : Subject} (h : subject.table = subject'.table) :
    subject = subject' := by
  cases subject <;> cases subject'
  case loggedCalls.loggedCalls | datasetEntries.datasetEntries => rfl
  case loggedCalls.datasetEntries | datasetEntries.loggedCalls => exact absurd h (by decide)

variable {subject subject' : Subject} {o o' : Options} {scope scope' : String}
  {fs gs : List Filter} {a b : Option Selection} {q r : Query}

/-- Text and parameters tell a compiled query and its projection, up to bounds of a page beyond the
largest number that can be bound. -/
theorem eq_of_written (hq : subject.compile o scope fs a = .ok q)
    (hr : subject'.compile o' scope' gs b = .ok r) {dialect : Dialect} {p p' : Projection}
    (hsql : (Statement.select q dialect p).sql = (Statement.select r dialect p').sql)
    (hparams : (Statement.select q dialect p).params = (Statement.select r dialect p').params) :
    q = r ∧ p.clamped = p'.clamped := by
  obtain ⟨cs, hcs, rfl⟩ := compile_eq_ok_iff.mp hq
  obtain ⟨ds, hds, rfl⟩ := compile_eq_ok_iff.mp hr
  have hlegible := hcs.legible scope a
  have hlegible' := hds.legible scope' b
  have hglyphs := (hlegible.clear p).eq_of_written (hlegible'.clear p') dialect
    (by rw [← Fragment.toList_text, ← Fragment.toList_text]; exact congrArg String.toList hsql)
    (by rw [Fragment.values_glyphs, Fragment.values_glyphs]; exact hparams)
  obtain ⟨hcount, htable, hjoins, hpredicates, htail⟩ := hlegible.parts_eq hlegible' hglyphs
  obtain rfl := table_inj htable
  have htagJoins : cs.filterMap Clause.join = ds.filterMap Clause.join :=
    List.append_cancel_left hjoins
  -- The rest of a query is fixed by its subject, or counted from its joins.
  refine ⟨?_, tail_inj rfl hcount htail⟩
  exact (Query.mk.injEq ..).mpr
    ⟨rfl, rfl, rfl, rfl, hjoins, hpredicates, congrArg List.length htagJoins⟩

/-- **Rendering loses nothing.** Two compiled queries, of whatever subjects, filters, scopes,
selections and options, have the same text and the same parameters under two projections in one
dialect exactly if the queries are equal, and the projections are equal up to bounds of a page
beyond the largest number that can be bound. -/
theorem select_inj (hq : subject.compile o scope fs a = .ok q)
    (hr : subject'.compile o' scope' gs b = .ok r) (dialect : Dialect) (p p' : Projection) :
    ((Statement.select q dialect p).sql = (Statement.select r dialect p').sql ∧
      (Statement.select q dialect p).params = (Statement.select r dialect p').params) ↔
        q = r ∧ p.clamped = p'.clamped := by
  constructor
  · rintro ⟨hsql, hparams⟩
    exact eq_of_written hq hr hsql hparams
  · rintro ⟨rfl, hprojection⟩
    have hpieces : q.pieces p = q.pieces p' := by
      rw [← q.pieces_clamped p, hprojection, q.pieces_clamped]
    rw [Statement.sql, Statement.sql, Statement.params, Statement.params, Statement.pieces,
      Statement.pieces, hpieces]
    exact ⟨rfl, rfl⟩

/-- A search whose wildcards stand for themselves has the parameters of one whose wildcards are
active if there are none in its value, and is written as another text all the same. -/
theorem select_inj_wildcards : ∃ q r,
    loggedCalls.compile {} "p" [⟨"model", "CONTAINS", some "m"⟩] none = .ok q ∧
      loggedCalls.compile { escapeLikeWildcards := true } "p"
        [⟨"model", "CONTAINS", some "m"⟩] none = .ok r ∧
      (Statement.select q .sqlite .ids).params = (Statement.select r .sqlite .ids).params ∧
      (Statement.select q .sqlite .ids).sql ≠ (Statement.select r .sqlite .ids).sql := by
  refine ⟨_, _, rfl, rfl, rfl, fun hsql => ?_⟩
  have hsame := (select_inj (rfl : loggedCalls.compile {} "p" [⟨"model", "CONTAINS", some "m"⟩]
    none = .ok _) (rfl : loggedCalls.compile { escapeLikeWildcards := true } "p"
      [⟨"model", "CONTAINS", some "m"⟩] none = .ok _) .sqlite .ids .ids).mp ⟨hsql, rfl⟩
  exact absurd hsame.1 (by decide)

/-- **What is executed is the text with its parameters.** Statements of compiled queries that are
written alike, and have the same parameters, have the same result, with every engine and on all
tables. -/
theorem execute_eq_of_written (hq : subject.compile o scope fs a = .ok q)
    (hr : subject'.compile o' scope' gs b = .ok r) {dialect : Dialect} {p p' : Projection}
    (hsql : (Statement.select q dialect p).sql = (Statement.select r dialect p').sql)
    (hparams : (Statement.select q dialect p).params = (Statement.select r dialect p').params)
    (engine : Engine) (tables : Tables) :
    (Statement.select q dialect p).execute engine tables =
      (Statement.select r dialect p').execute engine tables := by
  obtain ⟨rfl, hprojection⟩ := eq_of_written hq hr hsql hparams
  cases dialect with
  | postgres => rfl
  | sqlite =>
    rw [Statement.execute, Statement.execute, ← q.execute_clamped engine tables p, hprojection,
      q.execute_clamped]

end LogFilter.Subject
