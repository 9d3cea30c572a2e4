import LogFilter.Sql.Execute

/-!
# Queries Beyond the Limits

The database refuses some queries whatever the rows are: those with too many placeholders,
those that nest too deeply or join too many tables. A pattern that is too long is refused only
when it is looked at. This module names what a query exceeds and shows that the check before a
query refuses it for nothing else.

The check reads the text of a query from the left, and where the condition is too deep it does
not see the placeholders after that point; the query is refused either way.

## Main results

* `Query.check_cases`: the check passes or tells a limit that the query exceeds.
* `Query.check_eq_ok_iff`: it passes exactly if no limit is exceeded other than that of patterns.
* `Query.params_pieces_page`: a page has two placeholders more than the ids.
-/

namespace LogFilter.Sql

/-- The **limits that a query exceeds** under a projection, with the errors that tell them. -/
inductive Query.Exceeds (query : Query) (projection : Projection) : Error → Prop
  /-- It has too many placeholders: the error tells the text and where in it the first one too
  many is. -/
  | params : maxParams < (query.pieces projection).params.length →
      Exceeds query projection (.tooManyParams ((query.pieces projection).text .sqlite)
        (((query.pieces projection).beforeBind maxParams).text .sqlite).utf8ByteSize)
  /-- Its condition is too deep. -/
  | depth : maxDepth < query.depth → Exceeds query projection .expressionTooDeep
  /-- It joins too many tables. -/
  | tables : maxTables < query.joins.length + 1 → Exceeds query projection .tooManyTables
  /-- It names too many tables, which is told before it is asked whether they can be joined. -/
  | terms : maxTerms < query.joins.length + 1 → Exceeds query projection .tooManyTerms
  /-- It searches for a pattern that is too long. -/
  | pattern {predicate : Predicate} : predicate ∈ query.predicates →
      predicate.isTooLong = true → Exceeds query projection .patternTooLong

/-- A query **yields a value** under a projection if its outcome is the value, or an error that
tells a limit which the query exceeds. -/
def Query.Yields {α : Type} (query : Query) (projection : Projection) (outcome : Except Error α)
    (value : α) : Prop :=
  outcome = .ok value ∨ ∃ error, query.Exceeds projection error ∧ outcome = .error error

/-! ### Placeholders -/

/-- The parameters of fragments one after the other. -/
theorem Fragment.params_append (front back : Fragment) :
    Fragment.params (front ++ back) = front.params ++ back.params := by
  induction front with
  | nil => rfl
  | cons piece rest ih => cases piece <;> simp [params, ih]

/-- Separators have no parameters. -/
theorem Fragment.params_separated (separator : String) (fragments : List Fragment) :
    Fragment.params (separated separator fragments) = fragments.flatMap params := by
  induction fragments with
  | nil => rfl
  | cons fragment rest ih =>
    cases rest with
    | nil => simp [separated]
    | cons next rest =>
      rw [separated, params_append, params, ih, List.flatMap_cons (x := fragment)]

/-- The parameters of a conjunction are those of its predicates. -/
theorem Fragment.params_conjunction (predicates : List Predicate) :
    Fragment.params (conjunction predicates) =
      predicates.flatMap fun predicate => params predicate.pieces := by
  cases predicates with
  | nil => rfl
  | cons first rest => rw [conjunction, params_separated, List.flatMap_map]; simp

/-- The parameters of a list are its values. -/
theorem Predicate.params_isIn (operand : Operand) (values : List Scalar) :
    Fragment.params (Predicate.isIn operand values).pieces = values := by
  cases values with
  | nil => rfl
  | cons value rest =>
    have hpiece : Fragment.params [operand.piece] = [] := by cases operand <;> rfl
    have hbinds : Fragment.params (bindList (value :: rest)) = value :: rest := by
      rw [bindList, List.cons_append, Fragment.params, Fragment.params_append,
        Fragment.params_separated, List.flatMap_map]
      simp [Fragment.params]
    have hpieces : (Predicate.isIn operand (value :: rest)).pieces =
        [operand.piece] ++ .words " IN " :: bindList (value :: rest) := rfl
    rw [hpieces, Fragment.params_append, hpiece, Fragment.params, hbinds, List.nil_append]

/-- The predicates that are read after others are the first ones of all. -/
theorem readAfter_prefix (depth : Nat) (predicates : List Predicate) :
    readAfter depth predicates <+: predicates := by
  induction predicates generalizing depth with
  | nil => exact List.nil_prefix
  | cons predicate rest ih =>
    refine (List.cons_prefix_cons).mpr ⟨rfl, ?_⟩
    split
    · exact List.nil_prefix
    · exact ih _

/-- The part of a query's text that is read has no more placeholders than the whole. -/
theorem Query.length_params_readPieces_le (query : Query) (projection : Projection) :
    (query.readPieces projection).params.length ≤ (query.pieces projection).params.length := by
  have hread : readPredicates query.predicates <+: query.predicates := by
    cases query.predicates with
    | nil => exact List.nil_prefix
    | cons first rest => exact (List.cons_prefix_cons).mpr ⟨rfl, readAfter_prefix _ rest⟩
  obtain ⟨rest, hrest⟩ := hread
  have hwhole : (conjunction query.predicates).params =
      (conjunction (readPredicates query.predicates)).params ++
        rest.flatMap fun predicate => Fragment.params predicate.pieces := by
    rw [Fragment.params_conjunction, Fragment.params_conjunction, ← List.flatMap_append, hrest]
  have hpieces : (query.pieces projection).params =
      (query.body ++ query.tail projection).params := rfl
  rw [hpieces, readPieces]
  split
  · simp only [body, Fragment.params_append, Fragment.params, hwhole, List.length_append]
    omega
  · exact Nat.le_refl _

/-! ### Depth -/

/-- A conjunction nests as deeply as its first part and once more for each other part. -/
theorem add_length_le_foldl_depth {α : Type} (depthOf : α → Nat) (parts : List α) (depth : Nat) :
    depth + parts.length ≤ parts.foldl (fun whole part => max whole (depthOf part) + 1) depth := by
  induction parts generalizing depth with
  | nil => exact Nat.le_refl _
  | cons part rest ih =>
    have hrest := ih (max depth (depthOf part) + 1)
    rw [List.length_cons, List.foldl_cons]
    omega

/-- The whole condition of a query nests at least as deeply as its predicates. -/
theorem Query.conjunctionDepth_le_depth (query : Query) :
    conjunctionDepth query.predicates ≤ query.depth := by
  have hjoins := add_length_le_foldl_depth (fun join : LeftJoin => conjunctionDepth join.on)
    query.joins (conjunctionDepth query.predicates)
  exact Nat.le_of_add_right_le hjoins

/-- A query whose condition is not too deep is read to its end. -/
theorem Query.readPieces_of_depth_le {query : Query} (h : query.depth ≤ maxDepth)
    (projection : Projection) :
    query.readPieces projection = query.body ++ query.tail projection := by
  have hpredicates := query.conjunctionDepth_le_depth
  rw [readPieces, if_neg (by omega)]

/-! ### Projections -/

/-- Counting has the placeholders of the ids. -/
theorem Query.params_pieces_count (query : Query) :
    (query.pieces .count).params = (query.pieces .ids).params := by
  simp only [pieces, tail, Fragment.params, List.cons_append, Fragment.params_append]

/-- A page has two placeholders more than the ids: its size and its offset. -/
theorem Query.params_pieces_page (query : Query) (limit offset : Nat) :
    (query.pieces (.page limit offset)).params =
      (query.pieces .ids).params ++ [boundNumber limit, boundNumber offset] := by
  simp only [pieces, tail, Fragment.params, List.cons_append, Fragment.params_append,
    List.append_nil]

/-! ### The check -/

/-- The check before a query passes, or tells a limit that the query exceeds. -/
theorem Query.check_cases (query : Query) (projection : Projection) :
    query.check projection = .ok () ∨
      ∃ error, query.Exceeds projection error ∧ query.check projection = .error error := by
  unfold check
  split
  · next hterms => exact .inr ⟨_, .terms hterms, rfl⟩
  split
  · next hparams =>
    have hwhole := query.length_params_readPieces_le projection
    exact .inr ⟨_, .params (Nat.lt_of_lt_of_le hparams hwhole), rfl⟩
  split
  · next hdepth => exact .inr ⟨_, .depth hdepth, rfl⟩
  split
  · next htables => exact .inr ⟨_, .tables htables, rfl⟩
  · exact .inl rfl

/-- **The check passes exactly if no limit is exceeded** that does not depend on the rows. -/
theorem Query.check_eq_ok_iff {query : Query} {projection : Projection} :
    query.check projection = .ok () ↔ (query.pieces projection).params.length ≤ maxParams ∧
      query.depth ≤ maxDepth ∧ query.joins.length + 1 ≤ maxTables := by
  have hread := query.length_params_readPieces_le projection
  -- A query that joins too many tables to be read joins more than can be joined.
  have hterms : maxTables ≤ maxTerms := by decide
  constructor
  · intro hok
    unfold check at hok
    split at hok
    · cases hok
    split at hok
    · cases hok
    next hparams =>
    split at hok
    · cases hok
    next hdepth =>
    split at hok
    · cases hok
    next htables =>
    rw [readPieces_of_depth_le (Nat.le_of_not_lt hdepth)] at hparams
    exact ⟨Nat.le_of_not_lt hparams, Nat.le_of_not_lt hdepth, Nat.le_of_not_lt htables⟩
  · rintro ⟨hparams, hdepth, htables⟩
    rw [check, if_neg (by omega), if_neg (by omega), if_neg (by omega), if_neg (by omega)]

/-- A query that exceeds a limit does not pass the check, unless the limit is that of patterns. -/
theorem Query.check_ne_ok {query : Query} {projection : Projection} {error : Error}
    (h : query.Exceeds projection error) (hpattern : error ≠ .patternTooLong) :
    query.check projection ≠ .ok () := by
  intro hok
  obtain ⟨hparams, hdepth, htables⟩ := check_eq_ok_iff.mp hok
  cases h with
  | params h => exact Nat.not_lt_of_le hparams h
  | depth h => exact Nat.not_lt_of_le hdepth h
  | tables h => exact Nat.not_lt_of_le htables h
  | terms h => exact Nat.not_lt_of_le (Nat.le_trans htables (by decide)) h
  | pattern _ _ => exact hpattern rfl

end LogFilter.Sql
