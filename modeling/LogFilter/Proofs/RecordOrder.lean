import LogFilter.Proofs.FilterMeaning

/-!
# The Order of Records

A query orders its joined rows by two of their cells. Both are cells of the record itself: the
text of its time and its id. So the order is one of records (`Record.precedes`), and the records
that are asked for, put in this order (`Store.asked`), say what the result of a query has to be,
without joins and rows.

## Main definitions

* `Record.precedes`: whether a record comes before another in a result.
* `Store.asked`: the records that are asked for, in the order of results.

## Main results

* `Record.filter_mergeSort`: leaving records out does not disturb the order of the others.
* `Store.pairwise_asked`: the records that are asked for are in order.
* `Subject.AddsAll.sort_joinedRows`: sorting the joined rows of records is sorting the records.
-/

namespace LogFilter

open Sql

namespace Record

/-- The time of a record, by which results are ordered. -/
def time : Record → Timestamp
  | call c => c.requestedAt
  | entry e => e.createdAt

/-- Whether a record **comes before** another in a result: the text of its time is greater, or
the same and its id is not greater. -/
def precedes (a b : Record) : Bool :=
  if a.time.text = b.time.text then decide (a.id ≤ b.id) else decide (b.time.text ≤ a.time.text)

/-- The order of records is transitive. -/
theorem precedes_trans {a b c : Record} (hab : a.precedes b = true) (hbc : b.precedes c = true) :
    a.precedes c = true := by
  simp only [precedes] at *
  by_cases h : a.time.text = b.time.text
  · rw [if_pos h, decide_eq_true_eq] at hab
    rw [h]
    split at hbc
    · next hsame =>
      rw [if_pos hsame, decide_eq_true_eq]
      exact String.le_trans hab (of_decide_eq_true hbc)
    · next hsame => rwa [if_neg hsame]
  · rw [if_neg h, decide_eq_true_eq] at hab
    split at hbc
    · next hsame =>
      rw [← hsame, if_neg h]
      exact decide_eq_true hab
    · have htimes := String.le_trans (of_decide_eq_true hbc) hab
      rw [if_neg]
      · exact decide_eq_true htimes
      · intro hsame
        rw [← hsame] at hbc
        exact h (String.le_antisymm (of_decide_eq_true hbc) hab)

/-- Of two records one comes before the other. -/
theorem precedes_total (a b : Record) : (a.precedes b || b.precedes a) = true := by
  simp only [precedes, Bool.or_eq_true]
  by_cases h : a.time.text = b.time.text
  · simpa only [h, if_true, decide_eq_true_eq] using String.le_total a.id b.id
  · simpa only [h, Ne.symm h, if_false, decide_eq_true_eq] using
      String.le_total b.time.text a.time.text

/-- Records that come before each other have the same id. -/
theorem id_eq_of_precedes {a b : Record} (hab : a.precedes b = true)
    (hba : b.precedes a = true) : a.id = b.id := by
  simp only [precedes] at hab hba
  by_cases h : a.time.text = b.time.text
  · rw [if_pos h, decide_eq_true_eq] at hab
    rw [if_pos h.symm, decide_eq_true_eq] at hba
    exact String.le_antisymm hab hba
  · rw [if_neg h, decide_eq_true_eq] at hab
    rw [if_neg (Ne.symm h), decide_eq_true_eq] at hba
    exact absurd (String.le_antisymm hba hab) h

/-- **Leaving some records out does not disturb the order of the others**, if their ids are
distinct. -/
theorem filter_mergeSort {records : List Record} (hnodup : (records.map id).Nodup)
    (keep : Record → Bool) :
    (records.mergeSort precedes).filter keep = (records.filter keep).mergeSort precedes := by
  have hsorted (kept : List Record) : (kept.mergeSort precedes).Pairwise
      fun a b => a.precedes b = true :=
    @List.pairwise_mergeSort _ precedes (fun _ _ _ => precedes_trans) precedes_total kept
  have hperm : ((records.mergeSort precedes).filter keep).Perm
      ((records.filter keep).mergeSort precedes) :=
    ((List.mergeSort_perm records precedes).filter keep).trans (List.mergeSort_perm _ _).symm
  refine List.Perm.eq_of_pairwise (fun a b ha hb hab hba => ?_) ((hsorted records).filter keep)
    (hsorted _) hperm
  have hmem {record : Record} (h : record ∈ (records.mergeSort precedes).filter keep) :
      record ∈ records := List.mem_mergeSort.mp (List.mem_of_mem_filter h)
  exact List.inj_on_of_nodup_map hnodup (hmem ha) (hmem (hperm.mem_iff.mpr hb))
    (id_eq_of_precedes hab hba)

end Record

/-- The **records that are asked for** by a scope, filters and a selection, in the order of
results. -/
def Store.asked (store : Store) (subject : Subject) (options : Options) (scopeId : String)
    (filters : List Filter) (selection : Option Selection) : List Record :=
  ((store.records subject).filter (store.meets options scopeId filters selection)).mergeSort
    Record.precedes

namespace Store

variable {store : Store} {subject : Subject} {options : Options} {scopeId : String}
  {filters : List Filter} {selection : Option Selection}

/-- The records that are asked for are those of the subject that meet what is asked. -/
theorem mem_asked {record : Record} :
    record ∈ store.asked subject options scopeId filters selection ↔
      record ∈ store.records subject ∧
        store.meets options scopeId filters selection record = true := by
  rw [asked, List.mem_mergeSort, List.mem_filter]

/-- **The records that are asked for are in order.** -/
theorem pairwise_asked :
    (store.asked subject options scopeId filters selection).Pairwise
      fun a b => a.precedes b = true :=
  @List.pairwise_mergeSort _ Record.precedes (fun _ _ _ => Record.precedes_trans)
    Record.precedes_total _

/-- Records that are asked for and are in order already stay as they are. -/
theorem asked_of_pairwise (hsorted : ((store.records subject).filter
    (store.meets options scopeId filters selection)).Pairwise fun a b => a.precedes b = true) :
    store.asked subject options scopeId filters selection =
      (store.records subject).filter (store.meets options scopeId filters selection) :=
  List.mergeSort_of_pairwise hsorted

end Store

namespace Subject

variable {subject : Subject} {options : Options} {store : Store}

/-- The column of the order gives the text of the time of a record. -/
theorem cell_orderBy {record : Record} (hrecord : record ∈ store.records subject)
    {joins : List LeftJoin} {row : JoinedRow} (hrow : store.Represents joins row record) :
    row.cell subject.orderBy = .text record.time.text := by
  cases subject with
  | loggedCalls =>
    obtain ⟨call, -, rfl⟩ := List.mem_map.mp hrecord
    exact hrow.1 "requestedAt"
  | datasetEntries =>
    obtain ⟨entry, -, rfl⟩ := List.mem_map.mp hrecord
    exact hrow "createdAt"

/-- The joined rows of records are ordered as the records are. -/
theorem AddsAll.precedes_joinedRow {filters : List Filter} {clauses : List Clause}
    (h : subject.AddsAll options 0 filters clauses) (scopeId : String)
    (selection : Option Selection) {a b : Record} (ha : a ∈ store.records subject)
    (hb : b ∈ store.records subject) :
    (subject.assemble options scopeId selection clauses).precedes
        ((subject.assemble options scopeId selection clauses).joinedRow store.tables a.row)
        ((subject.assemble options scopeId selection clauses).joinedRow store.tables b.row) =
      a.precedes b := by
  have hrowa := h.represents scopeId selection ha
  have hrowb := h.represents scopeId selection hb
  unfold Query.precedes
  have hid : (subject.assemble options scopeId selection clauses).id = subject.id := rfl
  have horder : (subject.assemble options scopeId selection clauses).orderBy = subject.orderBy := rfl
  simp only [hid, horder, cell_id ha hrowa, cell_id hb hrowb, cell_orderBy ha hrowa,
    cell_orderBy hb hrowb, Cell.text.injEq, Cell.le, Record.precedes]

/-- **Sorting the joined rows of records is sorting the records.** -/
theorem AddsAll.sort_joinedRows {filters : List Filter} {clauses : List Clause}
    (h : subject.AddsAll options 0 filters clauses) (scopeId : String)
    (selection : Option Selection) {records : List Record}
    (hrecords : ∀ record ∈ records, record ∈ store.records subject) :
    (subject.assemble options scopeId selection clauses).sort
        (records.map fun record =>
          (subject.assemble options scopeId selection clauses).joinedRow store.tables record.row) =
      (records.mergeSort Record.precedes).map fun record =>
        (subject.assemble options scopeId selection clauses).joinedRow store.tables record.row := by
  symm
  refine List.map_mergeSort fun a ha b hb => ?_
  exact (h.precedes_joinedRow scopeId selection (hrecords a ha) (hrecords b hb)).symm

end Subject

end LogFilter
