import LogFilter.Proofs.Clauses
import Mathlib.Data.List.Forall2

/-!
# Query Text Without Its Values

A piece of query text is either fixed words, a column read as text, or a placeholder with the
value bound to it. Leaving the values out of a text gives its shape, and the written text of
a fragment is a function of its shape alone, because a placeholder is written as its number.

Whatever a caller supplies is either bound to a placeholder or only counted: the text of a
field decides which column is read, a set of ids how many placeholders are listed. Two
compilations that agree in these decisions have one shape, so no caller text can be told from
another by the text of the query it ends up in.

## Main results

* `Fragment.text_eq_of_shape_eq`: the text of a fragment depends on its shape alone.
* `Subject.AddsAll.shape_eq`: filters of one shape add clauses of one shape.
* `Subject.sql_eq_of_sameShape`: compilations of one shape are written as one text.
-/

namespace LogFilter.Sql

/-- A piece **without its value**: nothing is left of a placeholder but its place. -/
def Piece.shape : Piece → Option Piece
  | .bind _ => none
  | piece => some piece

/-- The **shape** of a fragment: its pieces without their values. -/
def Fragment.shape (fragment : Fragment) : List (Option Piece) :=
  fragment.map Piece.shape

/-- Two pieces of one shape are the same, unless they are placeholders. -/
theorem Piece.eq_or_bind_of_shape_eq {a b : Piece} (h : a.shape = b.shape) :
    a = b ∨ ∃ v w, a = .bind v ∧ b = .bind w := by
  cases a with
  | bind v =>
    cases b with
    | bind w => exact .inr ⟨v, w, rfl, rfl⟩
    | words _ | asText _ => cases h
  | words _ | asText _ =>
    cases b with
    | bind _ => cases h
    | words _ | asText _ => exact .inl (Option.some.inj h)

namespace Fragment

/-- Placeholders are numbered by their places, so the written pieces of fragments of one shape
are the same. -/
theorem textsFrom_eq_of_shape_eq (dialect : Dialect) {a b : Fragment} (h : a.shape = b.shape)
    (next : Nat) : a.textsFrom dialect next = b.textsFrom dialect next := by
  induction a generalizing b next with
  | nil =>
    obtain rfl : b = [] := List.map_eq_nil_iff.mp h.symm
    rfl
  | cons piece rest ih =>
    obtain ⟨other, others, rfl, hpiece, hrest⟩ := List.map_eq_cons_iff.mp h.symm
    have htail (n : Nat) := ih (b := others) hrest.symm n
    rcases Piece.eq_or_bind_of_shape_eq hpiece with rfl | ⟨v, w, rfl, rfl⟩
    · cases other <;> simp only [textsFrom, htail]
    · simp only [textsFrom, htail]

/-- **The text of a fragment depends on its shape alone.** -/
theorem text_eq_of_shape_eq (dialect : Dialect) {a b : Fragment} (h : a.shape = b.shape) :
    a.text dialect = b.text dialect := by
  rw [text, text, textsFrom_eq_of_shape_eq dialect h]

/-- There are as many parameters as the shape has placeholders. -/
theorem length_params (fragment : Fragment) :
    fragment.params.length = fragment.shape.count none := by
  induction fragment with
  | nil => rfl
  | cons piece rest ih =>
    rw [shape, List.map_cons, ← shape]
    cases piece <;> simp [params, Piece.shape, ih]

/-- The shape of fragments one after the other. -/
@[simp] theorem shape_append (a b : Fragment) : shape (a ++ b) = shape a ++ shape b :=
  List.map_append

/-- The shape of a piece before a fragment. -/
@[simp] theorem shape_cons (piece : Piece) (rest : Fragment) :
    shape (piece :: rest) = piece.shape :: shape rest := rfl

/-- The shape of no pieces. -/
@[simp] theorem shape_nil : shape [] = [] := rfl

end Fragment

/-! ### Shapes of conditions and joins -/

/-- The shape of separated fragments depends on their shapes alone. -/
theorem shape_separated_eq (separator : String) {as bs : List Fragment}
    (h : as.map Fragment.shape = bs.map Fragment.shape) :
    (separated separator as).shape = (separated separator bs).shape := by
  induction as generalizing bs with
  | nil =>
    obtain rfl : bs = [] := List.map_eq_nil_iff.mp h.symm
    rfl
  | cons a as ih =>
    obtain ⟨b, bs, rfl, hb, hbs⟩ := List.map_eq_cons_iff.mp h.symm
    have htail := ih hbs.symm
    cases as with
    | nil =>
      obtain rfl : bs = [] := List.map_eq_nil_iff.mp hbs
      exact hb.symm
    | cons a' as =>
      obtain ⟨b', bs, rfl, -, -⟩ := List.map_eq_cons_iff.mp hbs
      simp only [separated, Fragment.shape_append, Fragment.shape_cons, hb, htail]

/-- The **shape of a condition**. -/
def Predicate.shape (predicate : Predicate) : List (Option Piece) :=
  predicate.pieces.shape

/-- The shape of a conjunction depends on the shapes of its conditions alone. -/
theorem shape_conjunction_eq {as bs : List Predicate}
    (h : as.map Predicate.shape = bs.map Predicate.shape) :
    (conjunction as).shape = (conjunction bs).shape := by
  cases as with
  | nil =>
    obtain rfl : bs = [] := List.map_eq_nil_iff.mp h.symm
    rfl
  | cons a as =>
    obtain ⟨b, bs, rfl, hb, hbs⟩ := List.map_eq_cons_iff.mp h.symm
    refine shape_separated_eq " AND " ?_
    rw [List.map_map, List.map_map]
    exact h

/-- A list of placeholders has a shape that only counts its values. -/
theorem shape_bindList_eq {as bs : List Scalar} (h : as.length = bs.length) :
    (bindList as).shape = (bindList bs).shape := by
  have hpieces : (as.map fun value => [Piece.bind value]).map Fragment.shape =
      (bs.map fun value => [Piece.bind value]).map Fragment.shape := by
    have hmap (vs : List Scalar) : (vs.map fun value => [Piece.bind value]).map Fragment.shape =
        List.replicate vs.length [none] := by
      simp [Fragment.shape, Piece.shape, Function.comp_def, List.map_const']
    rw [hmap, hmap, h]
  simp only [bindList, List.cons_append, Fragment.shape_cons, Fragment.shape_append,
    shape_separated_eq ", " hpieces]

/-- The shape of a search among values only counts the values, and so does that of
their exclusion. -/
theorem shape_isIn_eq (operand : Operand) {as bs : List Scalar} (h : as.length = bs.length) :
    (Predicate.isIn operand as).shape = (Predicate.isIn operand bs).shape ∧
      (Predicate.notIn operand as).shape = (Predicate.notIn operand bs).shape := by
  have hlist := shape_bindList_eq h
  cases as with
  | nil =>
    obtain rfl : bs = [] := List.length_eq_zero_iff.mp h.symm
    exact ⟨rfl, rfl⟩
  | cons a as =>
    obtain ⟨b, bs, rfl⟩ := List.exists_cons_of_length_eq_add_one h.symm
    constructor
    · simp only [Predicate.shape, Predicate.pieces, Fragment.shape_cons, hlist]
    · simp only [Predicate.shape, Predicate.pieces, Fragment.shape_cons, hlist]

/-- The **shape of a join**. -/
def LeftJoin.shape (join : LeftJoin) : List (Option Piece) :=
  join.pieces.shape

/-- The shape of joins one after the other. -/
theorem shape_flatMap_joins (joins : List LeftJoin) :
    Fragment.shape (joins.flatMap LeftJoin.pieces) = (joins.map LeftJoin.shape).flatten := by
  rw [Fragment.shape, List.map_flatMap, List.flatMap_def]
  rfl

/-- The projections that ask for the same, apart from the bounds of a page. -/
def Projection.SameKind : Projection → Projection → Prop
  | .ids, .ids => True
  | .page _ _, .page _ _ => True
  | .count, .count => True
  | _, _ => False

/-- The shape of a query depends on the shapes of its joins and conditions, on its tables and
columns, and on the kind of its projection. -/
theorem Query.shape_pieces_eq {q r : Query} {p p' : Projection} (htable : q.table = r.table)
    (halias : q.tableAlias = r.tableAlias) (hid : q.id = r.id) (horder : q.orderBy = r.orderBy)
    (hjoins : q.joins.map LeftJoin.shape = r.joins.map LeftJoin.shape)
    (hpredicates : q.predicates.map Predicate.shape = r.predicates.map Predicate.shape)
    (hkind : p.SameKind p') : (q.pieces p).shape = (r.pieces p').shape := by
  have hhead : q.head p = r.head p' := by
    cases p <;> cases p' <;> first | exact hkind.elim | simp only [head, htable, halias, hid]
  have htail : (q.tail p).shape = (r.tail p').shape := by
    cases p <;> cases p' <;>
      first | exact hkind.elim | simp [tail, ordering, horder, hid, Piece.shape]
  have hbody : q.body.shape = r.body.shape := by
    simp only [body, Fragment.shape_append, Fragment.shape_cons, shape_flatMap_joins, hjoins,
      shape_conjunction_eq hpredicates]
  simp only [pieces, List.cons_append, Fragment.shape_cons, Fragment.shape_append, hhead, hbody,
    htail]

end LogFilter.Sql

namespace LogFilter

open Sql

/-! ### Inputs of one shape -/

/-- Two filters have **one shape** if neither has a value, or if both have one, name the same
comparator, and name the same known field or no known field. -/
def Filter.SameShape (subject : Subject) (f g : Filter) : Prop :=
  (f.specified? = none ∧ g.specified? = none) ∨
    (f.specified?.isSome ∧ g.specified?.isSome ∧ f.comparator = g.comparator ∧
      subject.field? f.field = subject.field? g.field)

namespace Selection

/-- The ids that **govern** a selection: those that its default does not decide. -/
def governing (selection : Selection) : NameSet :=
  if selection.defaultToSelected then selection.deselectedIds else selection.selectedIds

/-- Two selections have **one shape** if they have one default and as many governing ids. -/
def SameShape (a b : Selection) : Prop :=
  a.defaultToSelected = b.defaultToSelected ∧
    a.governing.toList.length = b.governing.toList.length

/-- Bound ids are as many as the ids. -/
theorem length_boundIds (ids : NameSet) : (boundIds ids).length = ids.toList.length :=
  List.length_map _

/-- Selections of one shape put conditions of one shape on the id. -/
theorem idPredicates_shape_eq {a b : Selection} (h : a.SameShape b) (id : Column) :
    (a.idPredicates id).map Predicate.shape = (b.idPredicates id).map Predicate.shape := by
  obtain ⟨hdefault, hlength⟩ := h
  have hbound (x y : NameSet) (hxy : x.toList.length = y.toList.length) :
      x.isEmpty = y.isEmpty ∧ (boundIds x).length = (boundIds y).length := by
    refine ⟨Bool.eq_iff_iff.mpr ?_, by rw [length_boundIds, length_boundIds, hxy]⟩
    rw [NameSet.isEmpty, NameSet.isEmpty, List.isEmpty_iff_length_eq_zero,
      List.isEmpty_iff_length_eq_zero, hxy]
  by_cases hselected : b.defaultToSelected = true
  · simp only [governing, hdefault, hselected, if_true] at hlength
    obtain ⟨hempty, hcount⟩ := hbound _ _ hlength
    simp only [idPredicates, hdefault, hselected, if_true, hempty]
    split
    · rfl
    · simp only [List.map_cons, List.map_nil, (shape_isIn_eq _ hcount).2]
  · simp only [governing, hdefault, hselected, Bool.false_eq_true, if_false] at hlength
    obtain ⟨hempty, hcount⟩ := hbound _ _ hlength
    simp only [idPredicates, hdefault, hselected, Bool.false_eq_true, if_false, hempty]
    split
    · rfl
    · simp only [List.map_cons, List.map_nil, (shape_isIn_eq _ hcount).1]

/-- Selections of one shape add conditions of one shape, whatever the status asked for. -/
theorem predicates_shape_eq {a b : Selection} (h : a.SameShape b) (id : Column)
    (status : Option Column) (m n : Int) :
    (a.predicates id status m).map Predicate.shape =
      (b.predicates id status n).map Predicate.shape := by
  rw [predicates, predicates, List.map_append, List.map_append, idPredicates_shape_eq h]
  cases status <;> rfl

end Selection

/-! ### Compilations of one shape -/

/-- The **shape of a clause**: that of its join and that of its condition. -/
def Clause.shape (clause : Clause) : Option (List (Option Piece)) × List (Option Piece) :=
  (clause.join.map LeftJoin.shape, clause.predicate.shape)

/-- The condition of a comparator has a shape that does not depend on the value. -/
theorem Comparator.shape_predicate_eq (comparator : Comparator) (wildcards : Wildcards)
    (v w : String) (operand : Operand) :
    (comparator.predicate wildcards v operand).shape =
      (comparator.predicate wildcards w operand).shape := by
  cases comparator <;> cases wildcards <;> rfl

/-- The plan of a tag filter has a shape that depends on neither the name nor the value. -/
theorem TagTable.shape_plan_eq (tags : TagTable) (parent : Column) (position : Nat)
    (comparator : Comparator) (wildcards : Wildcards) (m n v w : String) :
    (tags.plan parent position m (comparator.predicate wildcards v)).shape =
      (tags.plan parent position n (comparator.predicate wildcards w)).shape := by
  simp only [Clause.shape, plan, comparator.shape_predicate_eq wildcards v w]
  rfl

namespace Subject

variable {subject : Subject} {o o' : Options}

/-- Filters of one shape at one position add clauses of one shape. -/
theorem Adds.shape_eq (hescape : o.wildcards = o'.wildcards) {position : Nat} {f g : Filter}
    (hshape : f.SameShape subject g) {c d : Option Clause}
    (hc : subject.Adds o position f c) (hd : subject.Adds o' position g d) :
    c.map Clause.shape = d.map Clause.shape := by
  rcases hshape with ⟨hf, hg⟩ | ⟨hf, hg, htoken, hfield⟩
  · cases hc <;> cases hd <;> simp_all
  · cases hc with
    | nothing hnone => simp [hnone] at hf
    | @column v comparator _ hv hcomparator hknown =>
      cases hd with
      | nothing hnone => simp [hnone] at hg
      | @column w _ _ hw hcomparator' hknown' =>
        obtain rfl := Option.some.inj ((hfield ▸ hknown).symm.trans hknown')
        obtain rfl := Except.ok.inj ((htoken ▸ hcomparator).symm.trans hcomparator')
        simp only [Option.map_some, Clause.shape, hescape, Option.map_none,
          comparator.shape_predicate_eq _ v w]
      | tag _ _ hunknown | skipped _ _ hunknown => simp [hfield, hunknown] at hknown
    | tag hv hcomparator hunknown _ htags =>
      cases hd with
      | nothing hnone => simp [hnone] at hg
      | column _ _ hknown => simp [hfield, hknown] at hunknown
      | tag hw hcomparator' _ _ htags' =>
        obtain rfl := Option.some.inj (htags.symm.trans htags')
        obtain rfl := Except.ok.inj ((htoken ▸ hcomparator).symm.trans hcomparator')
        rw [Option.map_some, Option.map_some, hescape, TagTable.shape_plan_eq]
      | skipped _ _ _ _ hnone => simp [htags] at hnone
    | skipped _ _ hunknown _ hnone =>
      cases hd with
      | nothing | skipped => rfl
      | column _ _ hknown => simp [hfield, hknown] at hunknown
      | tag _ _ _ _ htags => simp [htags] at hnone

/-- **Filters of one shape add clauses of one shape.** -/
theorem AddsAll.shape_eq (hescape : o.wildcards = o'.wildcards) {fs gs : List Filter}
    (hshape : List.Forall₂ (Filter.SameShape subject) fs gs) {position : Nat}
    {cs ds : List Clause} (hc : subject.AddsAll o position fs cs)
    (hd : subject.AddsAll o' position gs ds) : cs.map Clause.shape = ds.map Clause.shape := by
  induction hshape generalizing position cs ds with
  | nil =>
    cases hc
    cases hd
    rfl
  | cons hfirst _ ih =>
    cases hc with
    | @cons _ _ _ c cs hfc hfcs =>
      cases hd with
      | @cons _ _ _ d ds hgd hgds =>
        have hhead : c.toList.map Clause.shape = d.toList.map Clause.shape := by
          rw [← Option.toList_map, ← Option.toList_map, hfc.shape_eq hescape hfirst hgd]
        rw [List.map_append, List.map_append, hhead, ih hfcs hgds]

/-- The joins of clauses have shapes that are read off the shapes of the clauses. -/
theorem shape_joins (clauses : List Clause) :
    (clauses.filterMap Clause.join).map LeftJoin.shape =
      (clauses.map Clause.shape).filterMap Prod.fst := by
  rw [List.filterMap_map, List.map_filterMap]
  rfl

/-- Queries assembled from clauses and selections of one shape are written with pieces of one
shape. -/
theorem assemble_shape_eq (scope scope' : String) {a b : Option Selection}
    (hselection : Option.Rel Selection.SameShape a b) {cs ds : List Clause}
    (hclauses : cs.map Clause.shape = ds.map Clause.shape) {p p' : Projection}
    (hkind : p.SameKind p') :
    ((subject.assemble o scope a cs).pieces p).shape =
      ((subject.assemble o' scope' b ds).pieces p').shape := by
  have hscope : (subject.scope scope).map Predicate.shape =
      (subject.scope scope').map Predicate.shape := by
    cases subject <;> rfl
  have hfilters : (cs.map Clause.predicate).map Predicate.shape =
      (ds.map Clause.predicate).map Predicate.shape := by
    have hconditions := congrArg (List.map Prod.snd) hclauses
    rw [List.map_map, List.map_map] at hconditions ⊢
    exact hconditions
  refine Query.shape_pieces_eq rfl rfl rfl rfl ?_ ?_ hkind
  · simp only [assemble, List.map_append, shape_joins, hclauses]
  · simp only [assemble, List.map_append, hscope, hfilters]
    cases hselection with
    | none => rfl
    | some hsame => rw [Selection.predicates_shape_eq hsame]

/-- **Caller text never reaches the text of a query.** Two compilations whose filters,
selections and projections have one shape, and that treat wildcards alike, are written as the
same text, with as many parameters and as many tag joins, whatever the scopes, the names of
tags, the values, the ids, the known tags, the status and the bounds of the page. -/
theorem sql_eq_of_sameShape (subject : Subject) (dialect : Dialect) (o o' : Options)
    (scope scope' : String) (fs gs : List Filter) (a b : Option Selection) (p p' : Projection)
    (q r : Query) (hq : subject.compile o scope fs a = .ok q)
    (hr : subject.compile o' scope' gs b = .ok r)
    (hfilters : List.Forall₂ (Filter.SameShape subject) fs gs)
    (hselection : Option.Rel Selection.SameShape a b)
    (hescape : o.escapeLikeWildcards = o'.escapeLikeWildcards) (hkind : p.SameKind p') :
    (Statement.select q dialect p).sql = (Statement.select r dialect p').sql ∧
      (Statement.select q dialect p).params.length =
        (Statement.select r dialect p').params.length ∧
      q.tagJoins = r.tagJoins := by
  obtain ⟨cs, hcs, rfl⟩ := compile_eq_ok_iff.mp hq
  obtain ⟨ds, hds, rfl⟩ := compile_eq_ok_iff.mp hr
  have hwildcards : o.wildcards = o'.wildcards := by
    rw [Options.wildcards, Options.wildcards, hescape]
  have hclauses := AddsAll.shape_eq hwildcards hfilters hcs hds
  have hpieces : ((subject.assemble o scope a cs).pieces p).shape =
      ((subject.assemble o' scope' b ds).pieces p').shape :=
    assemble_shape_eq scope scope' hselection hclauses hkind
  refine ⟨Fragment.text_eq_of_shape_eq dialect hpieces, ?_, ?_⟩
  · rw [Statement.params, Statement.params, Fragment.length_params, Fragment.length_params]
    exact congrArg (List.count none) hpieces
  · have hjoins := congrArg List.length (congrArg (List.filterMap Prod.fst) hclauses)
    rwa [← shape_joins, ← shape_joins, List.length_map, List.length_map] at hjoins

/-- A tag name, a value, an id and a scope that look like query text are written as harmless
ones are. -/
theorem sql_eq_of_hostile_text : ∃ q r,
    loggedCalls.compile {} "p"
        [⟨"env", "=", some "prod"⟩, ⟨"Status Code", "??", none⟩, ⟨"model", "CONTAINS", some "a"⟩]
        (some ⟨false, ⟨["c1"], List.pairwise_singleton _ _⟩, .empty⟩) = .ok q ∧
      loggedCalls.compile {} "p' OR 1"
        [⟨"x; --", "=", some "y' OR '1' = '1"⟩, ⟨"env", "=", some ""⟩,
          ⟨"model", "CONTAINS", some "%'; DROP TABLE"⟩]
        (some ⟨false, ⟨["?1)"], List.pairwise_singleton _ _⟩, .empty⟩) = .ok r ∧
      (Statement.select q .postgres (.page 10 0)).sql =
        (Statement.select r .postgres (.page 0 99)).sql := by
  obtain ⟨q, hq⟩ : ∃ q, loggedCalls.compile {} "p"
      [⟨"env", "=", some "prod"⟩, ⟨"Status Code", "??", none⟩, ⟨"model", "CONTAINS", some "a"⟩]
      (some ⟨false, ⟨["c1"], List.pairwise_singleton _ _⟩, .empty⟩) = .ok q := ⟨_, rfl⟩
  obtain ⟨r, hr⟩ : ∃ r, loggedCalls.compile {} "p' OR 1"
      [⟨"x; --", "=", some "y' OR '1' = '1"⟩, ⟨"env", "=", some ""⟩,
        ⟨"model", "CONTAINS", some "%'; DROP TABLE"⟩]
      (some ⟨false, ⟨["?1)"], List.pairwise_singleton _ _⟩, .empty⟩) = .ok r := ⟨_, rfl⟩
  refine ⟨q, r, hq, hr, (sql_eq_of_sameShape _ _ _ _ _ _ _ _ _ _ _ _ q r hq hr
    (.cons ?tag (.cons ?absent (.cons ?known .nil))) (.some ?selection) rfl ?page).1⟩
  case tag => exact .inr ⟨rfl, rfl, rfl, rfl⟩
  case absent => exact .inl ⟨rfl, rfl⟩
  case known => exact .inr ⟨rfl, rfl, rfl, rfl⟩
  case selection => exact ⟨rfl, rfl⟩
  case page => trivial

end Subject

end LogFilter
