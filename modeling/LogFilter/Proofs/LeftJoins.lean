import LogFilter.Sql.Execute
import Mathlib.Data.List.Nodup

/-!
# Chains of Left Joins

A query extends every row of its base table by one join after the other, and each join may
multiply the rows and may read what the joins before it added. Queries as the compiler makes
them do neither: their aliases are distinct, the condition of a join reads only the joined
table and the base table, and in the tables of a store it matches at most one row. Under
these conditions (`Query.WellScoped` and `Query.SingleMatch`) the joins are independent of
each other, and the joined rows are one for each row of the base table.

## Main results

* `LeftJoin.extend_eq`: a join with at most one match extends a row by exactly one row.
* `LeftJoin.joinAll_map`: plain joins with at most one match are independent.
* `Query.joined_eq`: a well scoped query has one joined row for each row of its base table.
-/

namespace LogFilter.Sql

/-! ### Conditions and what they read -/

/-- The **columns** that a condition reads. -/
def Predicate.columns : Predicate → List Column
  | .eq operand _ | .distinctFrom operand _ | .like operand _ | .notLikeOrNull operand _
  | .isIn operand _ | .notIn operand _ => [operand.source]
  | .columnsEq left right => [left, right]
  | .never => []

/-- An operand has the same value in rows that agree on its column. -/
theorem Operand.cell_congr {row row' : JoinedRow} {operand : Operand}
    (h : row.cell operand.source = row'.cell operand.source) :
    operand.cell row = operand.cell row' := by
  cases operand with
  | column source => exact h
  | text source => exact congrArg Cell.asText h

/-- A condition is the same of rows that agree on its columns. -/
theorem Predicate.truth_congr {row row' : JoinedRow} {predicate : Predicate}
    (h : ∀ column ∈ predicate.columns, row.cell column = row'.cell column) :
    predicate.truth row = predicate.truth row' := by
  cases predicate with
  | eq operand _ | distinctFrom operand _ | like operand _ | notLikeOrNull operand _
  | isIn operand _ | notIn operand _ =>
    simp only [truth, Operand.cell_congr (h operand.source (List.mem_singleton.mpr rfl))]
  | columnsEq left right =>
    simp only [truth, h left (by simp [columns]), h right (by simp [columns])]
  | never => rfl

/-- Every row meets no conditions. -/
theorem meets_nil {row : JoinedRow} : Meets row [] :=
  List.forall_mem_nil _

/-- A row meets some conditions if the first is true of it and it meets the others. -/
theorem meets_cons {row : JoinedRow} {predicate : Predicate} {rest : List Predicate} :
    Meets row (predicate :: rest) ↔ predicate.truth row = some true ∧ Meets row rest :=
  List.forall_mem_cons

/-- Conditions are met alike by rows that agree on all their columns. -/
theorem meets_congr {row row' : JoinedRow} {predicates : List Predicate}
    (h : ∀ predicate ∈ predicates, ∀ column ∈ predicate.columns,
      row.cell column = row'.cell column) : Meets row predicates ↔ Meets row' predicates :=
  forall₂_congr fun predicate hmem => by rw [Predicate.truth_congr (h predicate hmem)]

/-! ### One join -/

namespace LeftJoin

/-- The row of a joined table that a join **matches** with a row, or the absent row. -/
def partner (tables : Tables) (join : LeftJoin) (row : JoinedRow) : Row :=
  ((tables join.table).find? fun cells =>
    decide (Meets ((join.tableAlias, cells) :: row) join.on)).getD Row.absent

/-- Whether a join matches **at most one** row of its table with a row. -/
def MatchesOnce (tables : Tables) (join : LeftJoin) (row : JoinedRow) : Prop :=
  (tables join.table).Pairwise fun a b =>
    ¬(Meets ((join.tableAlias, a) :: row) join.on ∧ Meets ((join.tableAlias, b) :: row) join.on)

/-- Whether a join has **plain conditions**: without patterns that are too long, and about
nothing but the joined table and one other alias. -/
def Plain (join : LeftJoin) (base : String) : Prop :=
  ∀ predicate ∈ join.on, predicate.isTooLong = false ∧
    ∀ column ∈ predicate.columns, column.tableAlias = join.tableAlias ∨ column.tableAlias = base

/-- Of rows of which at most one has a property, the first that has it is the only one. -/
theorem filter_eq_toList_find? {α : Type} {p : α → Bool} {rows : List α}
    (h : rows.Pairwise fun a b => ¬(p a = true ∧ p b = true)) :
    rows.filter p = (rows.find? p).toList := by
  induction rows with
  | nil => rfl
  | cons row rest ih =>
    obtain ⟨hrow, hrest⟩ := List.pairwise_cons.mp h
    cases hp : p row with
    | true =>
      rw [List.filter_cons_of_pos hp, List.find?_cons_of_pos hp, Option.toList_some,
        List.filter_eq_nil_iff.mpr fun other hmem hother => hrow other hmem ⟨hp, hother⟩]
    | false =>
      have hneg : ¬p row = true := by rw [hp]; exact Bool.false_ne_true
      rw [List.filter_cons_of_neg hneg, List.find?_cons_of_neg hneg, ih hrest]

/-- **A join with at most one match** extends a row by exactly one row. -/
theorem extend_eq {tables : Tables} {join : LeftJoin} {row : JoinedRow}
    (honce : join.MatchesOnce tables row) :
    join.extend tables row = [(join.tableAlias, join.partner tables row) :: row] := by
  have hmatched : ((tables join.table).map fun cells => (join.tableAlias, cells) :: row).filter
      (fun candidate => decide (Meets candidate join.on)) =
        (((tables join.table).find? fun cells =>
          decide (Meets ((join.tableAlias, cells) :: row) join.on)).map
            fun cells => (join.tableAlias, cells) :: row).toList := by
    rw [List.filter_map, Option.toList_map, ← filter_eq_toList_find?]
    · rfl
    · simp only [decide_eq_true_eq]
      exact honce
  rw [extend, hmatched, partner]
  cases (tables join.table).find? fun cells =>
    decide (Meets ((join.tableAlias, cells) :: row) join.on) <;> rfl

end LeftJoin

/-! ### Chains of joins -/

/-- The cell of a column in a row that begins with another alias. -/
theorem JoinedRow.cell_cons_of_ne {name : String} {cells : Row} {row : JoinedRow}
    {column : Column} (h : column.tableAlias ≠ name) :
    JoinedRow.cell ((name, cells) :: row) column = row.cell column := by
  have hne : (column.tableAlias == name) = false := beq_eq_false_iff_ne.mpr h
  simp only [cell, List.lookup_cons, hne]

/-- The cell of a column in a row that begins with its alias. -/
theorem JoinedRow.cell_cons_self {name : String} {cells : Row} {row : JoinedRow}
    {column : Column} (h : column.tableAlias = name) :
    JoinedRow.cell ((name, cells) :: row) column = cells column.name := by
  have heq : (column.tableAlias == name) = true := beq_iff_eq.mpr h
  simp only [cell, List.lookup_cons, heq]

/-- The cell of a column in a row after others that do not have its alias. -/
theorem JoinedRow.cell_append {others row : JoinedRow} {column : Column}
    (h : ∀ entry ∈ others, entry.1 ≠ column.tableAlias) :
    JoinedRow.cell (others ++ row) column = row.cell column := by
  induction others with
  | nil => rfl
  | cons entry rest ih =>
    rw [List.cons_append, cell_cons_of_ne (h entry List.mem_cons_self).symm,
      ih fun other hmem => h other (List.mem_cons_of_mem _ hmem)]

/-- In a row with distinct aliases every cell is found under its alias. -/
theorem JoinedRow.cell_of_mem {row : JoinedRow} (hdistinct : (row.map Prod.fst).Nodup)
    {name : String} {cells : Row} (hmem : (name, cells) ∈ row) (column : String) :
    row.cell ⟨name, column⟩ = cells column := by
  induction row with
  | nil => cases hmem
  | cons entry rest ih =>
    obtain ⟨hnew, hrest⟩ := List.nodup_cons.mp hdistinct
    rcases List.mem_cons.mp hmem with rfl | hlater
    · exact cell_cons_self rfl
    · have hne : name ≠ entry.1 := fun heq => hnew (heq ▸ List.mem_map_of_mem hlater)
      rw [cell_cons_of_ne hne, ih hrest hlater]

namespace LeftJoin

/-- A plain condition does not see what other joins added to a row. -/
theorem meets_on_iff {join : LeftJoin} {base : String} (hplain : join.Plain base) {cells : Row}
    {others row : JoinedRow} (hothers : ∀ entry ∈ others, entry.1 ≠ base) :
    Meets ((join.tableAlias, cells) :: (others ++ row)) join.on ↔
      Meets ((join.tableAlias, cells) :: row) join.on := by
  refine meets_congr fun predicate hmem column hcolumn => ?_
  by_cases hself : column.tableAlias = join.tableAlias
  · rw [JoinedRow.cell_cons_self hself, JoinedRow.cell_cons_self hself]
  · have hbase : column.tableAlias = base :=
      ((hplain predicate hmem).2 column hcolumn).resolve_left hself
    rw [JoinedRow.cell_cons_of_ne hself, JoinedRow.cell_cons_of_ne hself,
      JoinedRow.cell_append (hbase ▸ hothers)]

/-- A plain join with at most one match extends a row by the same partner, whatever other
joins added to the row before. -/
theorem extend_append {tables : Tables} {join : LeftJoin} {base : String}
    (hplain : join.Plain base) {others row : JoinedRow}
    (hothers : ∀ entry ∈ others, entry.1 ≠ base) (honce : join.MatchesOnce tables row) :
    join.extend tables (others ++ row) =
      [(join.tableAlias, join.partner tables row) :: (others ++ row)] := by
  have hmeets (cells : Row) :
      Meets ((join.tableAlias, cells) :: (others ++ row)) join.on ↔
        Meets ((join.tableAlias, cells) :: row) join.on := meets_on_iff hplain hothers
  rw [extend_eq]
  · simp only [partner, hmeets]
  · simpa only [MatchesOnce, hmeets] using honce

/-- The entries that plain joins add to a row, the last join's first. -/
def partners (tables : Tables) (joins : List LeftJoin) (row : JoinedRow) : JoinedRow :=
  (joins.map fun join => (join.tableAlias, join.partner tables row)).reverse

/-- **Plain joins with at most one match are independent**: together they extend each row of a
base table by one partner for each join. -/
theorem joinAll_map {tables : Tables} {base : String} {joins : List LeftJoin} {rows : List Row}
    (hbase : base ∉ joins.map tableAlias) (hplain : ∀ join ∈ joins, join.Plain base)
    (honce : ∀ join ∈ joins, ∀ cells ∈ rows, join.MatchesOnce tables [(base, cells)])
    (others : Row → JoinedRow) (hothers : ∀ cells, ∀ entry ∈ others cells, entry.1 ≠ base) :
    joinAll tables joins (rows.map fun cells => others cells ++ [(base, cells)]) =
      rows.map fun cells =>
        partners tables joins [(base, cells)] ++ others cells ++ [(base, cells)] := by
  induction joins generalizing others with
  | nil => rfl
  | cons join rest ih =>
    rw [List.map_cons, List.mem_cons, not_or] at hbase
    have hextend : (rows.map fun cells => others cells ++ [(base, cells)]).flatMap
        (join.extend tables) = rows.map fun cells =>
          (join.tableAlias, join.partner tables [(base, cells)]) ::
            (others cells ++ [(base, cells)]) := by
      rw [List.flatMap_map, List.map_eq_flatMap]
      exact List.flatMap_congr fun cells hmem => extend_append
        (hplain join List.mem_cons_self) (hothers cells) (honce join List.mem_cons_self cells hmem)
    have hrest := ih hbase.2 (fun other hmem => hplain other (List.mem_cons_of_mem _ hmem))
      (fun other hmem => honce other (List.mem_cons_of_mem _ hmem))
      (fun cells => (join.tableAlias, join.partner tables [(base, cells)]) :: others cells)
      fun cells entry hmem => by
        rcases List.mem_cons.mp hmem with rfl | hold
        · exact Ne.symm hbase.1
        · exact hothers cells entry hold
    rw [joinAll, hextend]
    simpa only [partners, List.map_cons, List.reverse_cons, List.append_assoc, List.cons_append,
      List.nil_append] using hrest

end LeftJoin

namespace Query

/-- A query is **well scoped** if its aliases are distinct and its joins have plain
conditions. -/
structure WellScoped (query : Query) : Prop where
  distinct : (query.tableAlias :: query.joins.map LeftJoin.tableAlias).Nodup
  plain : ∀ join ∈ query.joins, join.Plain query.tableAlias

/-- Whether every join of a query has at most one match for each row of the base table. -/
def SingleMatch (tables : Tables) (query : Query) : Prop :=
  ∀ join ∈ query.joins, ∀ cells ∈ tables query.table,
    join.MatchesOnce tables [(query.tableAlias, cells)]

/-- The **joined row** of a row of the base table: the partners of all joins and the row. -/
def joinedRow (tables : Tables) (query : Query) (cells : Row) : JoinedRow :=
  LeftJoin.partners tables query.joins [(query.tableAlias, cells)] ++ [(query.tableAlias, cells)]

/-- **The joined rows of a well scoped query** are one for each row of its base table. -/
theorem joined_eq {tables : Tables} {query : Query} (hscoped : query.WellScoped)
    (hsingle : query.SingleMatch tables) :
    query.joined tables = (tables query.table).map (query.joinedRow tables) := by
  have hbase := (List.nodup_cons.mp hscoped.distinct).1
  have hjoins := LeftJoin.joinAll_map hbase hscoped.plain hsingle (fun _ => []) (by simp)
  simp only [List.nil_append, List.append_nil] at hjoins
  exact hjoins

/-- The aliases of a joined row are distinct. -/
theorem WellScoped.distinct_joinedRow {query : Query} (hscoped : query.WellScoped)
    (tables : Tables) (cells : Row) : ((query.joinedRow tables cells).map Prod.fst).Nodup := by
  have haliases : (query.joinedRow tables cells).map Prod.fst =
      (query.tableAlias :: query.joins.map LeftJoin.tableAlias).reverse := by
    simp [joinedRow, LeftJoin.partners, Function.comp_def]
  rw [haliases]
  exact List.nodup_reverse.mpr hscoped.distinct

/-- The cells of the base table in a joined row. -/
theorem WellScoped.cell_base {query : Query} (hscoped : query.WellScoped) (tables : Tables)
    (cells : Row) (column : String) :
    (query.joinedRow tables cells).cell ⟨query.tableAlias, column⟩ = cells column :=
  JoinedRow.cell_of_mem (hscoped.distinct_joinedRow tables cells) (by simp [joinedRow]) column

/-- The cells of a join in a joined row are those of its partner. -/
theorem WellScoped.cell_join {query : Query} (hscoped : query.WellScoped) (tables : Tables)
    (cells : Row) {join : LeftJoin} (hmem : join ∈ query.joins) (column : String) :
    (query.joinedRow tables cells).cell ⟨join.tableAlias, column⟩ =
      join.partner tables [(query.tableAlias, cells)] column := by
  refine JoinedRow.cell_of_mem (hscoped.distinct_joinedRow tables cells) ?_ column
  refine List.mem_append_left _ (List.mem_reverse.mpr ?_)
  exact List.mem_map_of_mem hmem

end Query

end LogFilter.Sql
