import LogFilter.Proofs.CompiledQueries

/-!
# What Filters Mean

Filters have a meaning without any query: a field denotes a text of a record, which may be
absent, and a comparator with a value admits some of these. This module says so directly on
the records of a store, with neither joins nor aliases, and shows that the conditions of a
compiled query say the same of the joined row of a record.

An absent text is admitted by the two negative comparators and by neither of the positive
ones. Of a dataset entry, whose fields are all known, any other field says nothing.

## Main definitions

* `Record`, `Store.records`: the records of a subject.
* `Comparator.admits`, `Store.satisfies`, `Store.selects`: what a comparator, a filter and a
  selection ask for.
* `Store.meets`: whether a record is asked for by a scope, filters and a selection.

## Main results

* `Comparator.truth_predicate_iff`: the condition of a comparator says what it admits.
* `Subject.AddsAll.meets_predicates_iff`: the conditions of a compiled query say
  `Store.meets`.
-/

namespace LogFilter

open Sql

/-! ### Records -/

/-- A **record** that filters can be applied to. -/
inductive Record
  | call (call : LoggedCall)
  | entry (entry : DatasetEntry)

namespace Record

/-- The id of a record. -/
def id : Record → String
  | call c => c.id
  | entry e => e.id

/-- The cells of a record in the table of its subject. -/
def row : Record → Row
  | call c => c.row
  | entry e => e.row

/-- Whether a record **belongs to a scope**: to a project, or to a dataset of which it is not
an outdated entry. -/
def inScope (scopeId : String) : Record → Bool
  | call c => c.projectId == scopeId
  | entry e => e.datasetId == scopeId && !e.outdated

end Record

/-- The records of a subject. -/
def Store.records (store : Store) : Subject → List Record
  | .loggedCalls => store.calls.map .call
  | .datasetEntries => store.entries.map .entry

/-- The base table of a subject holds the cells of its records. -/
theorem Store.tables_table (store : Store) (subject : Subject) :
    store.tables subject.table = (store.records subject).map Record.row := by
  cases subject <;> rw [records, List.map_map] <;> rfl

/-! ### Filters -/

/-- Whether a comparator with a value **admits** a text that may be absent. -/
def Comparator.admits (comparator : Comparator) (wildcards : Wildcards) (value : String)
    (stored : Option String) : Bool :=
  match comparator with
  | .equals => stored == some value
  | .notEquals => stored != some value
  | .contains => stored.any (wildcards.containing value).matches
  | .notContains => !stored.any (wildcards.containing value).matches

/-- The text that a field **denotes** of a logged call: that of its model, of its response, or
of its tag with the name of the field. -/
def Store.callText? (store : Store) (call : LoggedCall) (field : String) : Option String :=
  match field with
  | "Request" => (store.response? call.id).map ModelResponse.reqPayload
  | "Response" => (store.response? call.id).bind ModelResponse.respPayload
  | "model" => call.model
  | "Status Code" => ((store.response? call.id).bind ModelResponse.statusCode).map toString
  | name => (store.tagValue? call.id name).join

/-- The text that a field denotes of a dataset entry, if it denotes anything. -/
def DatasetEntry.text? (entry : DatasetEntry) (field : String) : Option (Option String) :=
  match field with
  | "Input" => some (some entry.messages)
  | "Output" => some entry.output
  | _ => none

/-- Whether a record **satisfies** what a comparator with a value asks of a field. -/
def Store.admits (store : Store) (comparator : Comparator) (wildcards : Wildcards)
    (value field : String) : Record → Bool
  | .call call => comparator.admits wildcards value (store.callText? call field)
  | .entry entry => (entry.text? field).all (comparator.admits wildcards value)

/-- Whether a record **satisfies a filter**. A filter without a value asks for nothing. -/
def Store.satisfies (store : Store) (options : Options) (record : Record) (filter : Filter) :
    Bool :=
  match filter.specified?, Comparator.ofToken filter.comparator with
  | some value, .ok comparator =>
      store.admits comparator options.wildcards value filter.field record
  | some _, .error _ => false
  | none, _ => true

/-- Whether a selection asks for an id: its default, apart from the ids that govern it. -/
def Selection.asksFor (selection : Selection) (id : String) : Bool :=
  if selection.defaultToSelected then !selection.deselectedIds.contains id
  else selection.selectedIds.contains id

/-- Whether a record has a status, where records have one. -/
def Store.hasStatus (store : Store) (status : Int) : Record → Bool
  | .call call => (store.response? call.id).bind ModelResponse.statusCode == some status
  | .entry _ => true

/-- Whether a record is **selected**: everything is without a selection; with one, its id must
be asked for, and its status must be that of success. -/
def Store.selects (store : Store) (options : Options) (record : Record) :
    Option Selection → Bool
  | none => true
  | some selection =>
      selection.asksFor record.id && store.hasStatus options.successStatus record

/-- Whether a record is **asked for** by a scope, filters and a selection. -/
def Store.meets (store : Store) (options : Options) (scopeId : String) (filters : List Filter)
    (selection : Option Selection) (record : Record) : Bool :=
  record.inScope scopeId && filters.all (store.satisfies options record) &&
    store.selects options record selection

/-! ### The conditions of comparators -/

/-- **The condition of a comparator says what it admits** of the text that its operand reads. -/
theorem Comparator.truth_predicate_iff (comparator : Comparator) (wildcards : Wildcards)
    (value : String) {operand : Operand} {row : JoinedRow} {stored : Option String}
    (h : operand.cell row = Cell.ofText? stored) :
    (comparator.predicate wildcards value operand).truth row = some true ↔
      comparator.admits wildcards value stored = true := by
  cases comparator <;> cases stored <;>
    simp [predicate, admits, Predicate.truth, h, Cell.ofText?, Cell.equal, Cell.like, Cell.asText,
      Scalar.cell]

/-- A text that may be absent is its own text. -/
theorem Sql.Cell.asText_ofText? (content : Option String) :
    (Cell.ofText? content).asText = Cell.ofText? content := by
  cases content <;> rfl

/-- The text of a status that may be absent. -/
theorem Sql.Cell.asText_ofStatus? (status : Option Int) :
    ((status.map Cell.integer).getD .null).asText = Cell.ofText? (status.map toString) := by
  cases status <;> rfl

/-! ### Names of tags -/

/-- A name of no known field denotes the tag of that name. -/
theorem Store.callText?_of_unknown {store : Store} {call : LoggedCall} {name : String}
    (h : Subject.loggedCalls.field? name = none) :
    store.callText? call name = (store.tagValue? call.id name).join := by
  have hne (field : KnownField) (hmem : field ∈ Subject.loggedCalls.fields) :=
    (Subject.field?_eq_none_iff.mp h field hmem).symm
  have hrequest := hne .request (by decide)
  have hresponse := hne .response (by decide)
  have hmodel := hne .model (by decide)
  have hstatus := hne .statusCode (by decide)
  simp only [KnownField.name] at hrequest hresponse hmodel hstatus
  unfold callText?
  split <;> first | contradiction | rfl

/-- A name of no known field denotes nothing of a dataset entry. -/
theorem DatasetEntry.text?_of_unknown {entry : DatasetEntry} {name : String}
    (h : Subject.datasetEntries.field? name = none) : entry.text? name = none := by
  have hne (field : KnownField) (hmem : field ∈ Subject.datasetEntries.fields) :=
    (Subject.field?_eq_none_iff.mp h field hmem).symm
  have hinput := hne .input (by decide)
  have houtput := hne .output (by decide)
  simp only [KnownField.name] at hinput houtput
  unfold text?
  split <;> first | contradiction | rfl

/-! ### The conditions of a compiled query -/

/-- A joined row **represents** a record for some joins if its aliases give the cells of the
record and, for a logged call, those of its response and the values of its joined tags. -/
def Store.Represents (store : Store) (joins : List LeftJoin) (row : JoinedRow) : Record → Prop
  | .call call =>
      (∀ column, row.cell ⟨"lc", column⟩ = call.row column) ∧
        (∀ column, row.cell ⟨"lcmr", column⟩ =
          ((store.response? call.id).map ModelResponse.row).getD Row.absent column) ∧
        ∀ position name, tagJoin position name ∈ joins →
          row.cell ⟨callTags.aliasAt position, "value"⟩ =
            Cell.ofText? (store.tagValue? call.id name).join
  | .entry entry => ∀ column, row.cell ⟨"de", column⟩ = entry.row column

/-- A row that represents a record for some joins represents it for fewer. -/
theorem Store.Represents.mono {store : Store} {joins fewer : List LeftJoin} {row : JoinedRow}
    {record : Record} (h : store.Represents joins row record) (hsub : fewer ⊆ joins) :
    store.Represents fewer row record := by
  cases record with
  | call call =>
    exact ⟨h.1, h.2.1, fun position name hmem => h.2.2 position name (hsub hmem)⟩
  | entry entry => exact h

namespace Subject

variable {subject : Subject} {options : Options} {store : Store} {record : Record}

/-- The joined row of a record represents it. -/
theorem AddsAll.represents {filters : List Filter} {clauses : List Clause}
    (h : subject.AddsAll options 0 filters clauses) (scopeId : String)
    (selection : Option Selection) (hrecord : record ∈ store.records subject) :
    store.Represents (clauses.filterMap Clause.join)
      ((subject.assemble options scopeId selection clauses).joinedRow store.tables record.row)
      record := by
  have hscoped := h.wellScoped scopeId selection
  cases subject with
  | datasetEntries =>
    obtain ⟨entry, -, rfl⟩ := List.mem_map.mp hrecord
    exact fun column => hscoped.cell_base store.tables entry.row column
  | loggedCalls =>
    obtain ⟨call, -, rfl⟩ := List.mem_map.mp hrecord
    refine ⟨fun column => hscoped.cell_base store.tables call.row column, fun column => ?_,
      fun position name hmem => ?_⟩
    · rw [← store.partner_responseJoin call]
      exact hscoped.cell_join store.tables call.row (List.mem_append_left _ (by simp [joins]; rfl))
        column
    · have hvalue := hscoped.cell_join store.tables call.row
        (List.mem_append_right loggedCalls.joins hmem) "value"
      refine hvalue.trans ?_
      change (tagJoin position name).partner store.tables [("lc", call.row)] "value" = _
      rw [store.partner_tagJoin call position name, Store.tagValue?, ← Store.tag?]
      cases store.tag? call.id name <;> rfl

/-- A known field of logged calls reads the text that its name denotes. -/
theorem cell_operand_call {field : KnownField} (hfield : field ∈ loggedCalls.fields)
    {joins : List LeftJoin} {row : JoinedRow} {call : LoggedCall}
    (h : store.Represents joins row (.call call)) :
    field.operand.cell row = Cell.ofText? (store.callText? call field.name) := by
  obtain ⟨hcall, hresponse, -⟩ := h
  simp only [fields, List.mem_cons, List.not_mem_nil, or_false] at hfield
  rcases hfield with rfl | rfl | rfl | rfl <;>
    simp only [KnownField.operand, KnownField.column, Operand.cell, hcall, hresponse,
      Store.callText?, KnownField.name]
  · cases store.response? call.id <;> rfl
  · cases store.response? call.id with
    | none => rfl
    | some response => exact Cell.asText_ofText? response.respPayload
  · exact Cell.asText_ofText? call.model
  · cases store.response? call.id with
    | none => rfl
    | some response => exact Cell.asText_ofStatus? response.statusCode

/-- A known field of dataset entries reads the text that its name denotes. -/
theorem cell_operand_entry {field : KnownField} (hfield : field ∈ datasetEntries.fields)
    {joins : List LeftJoin} {row : JoinedRow} {entry : DatasetEntry}
    (h : store.Represents joins row (.entry entry)) :
    ∃ stored, entry.text? field.name = some stored ∧
      field.operand.cell row = Cell.ofText? stored := by
  simp only [fields, List.mem_cons, List.not_mem_nil, or_false] at hfield
  rcases hfield with rfl | rfl
  · refine ⟨some entry.messages, rfl, ?_⟩
    simp only [KnownField.operand, KnownField.column, Operand.cell, h _]
    rfl
  · refine ⟨entry.output, rfl, ?_⟩
    simp only [KnownField.operand, KnownField.column, Operand.cell, h _]
    exact Cell.asText_ofText? entry.output

/-- The condition that a filter adds says what the filter asks for. -/
theorem Adds.truth_iff {position : Nat} {filter : Filter} {clause : Clause}
    (h : subject.Adds options position filter (some clause))
    (hrecord : record ∈ store.records subject) {row : JoinedRow}
    (hrow : store.Represents clause.join.toList row record) :
    clause.predicate.truth row = some true ↔ store.satisfies options record filter = true := by
  cases h with
  | @column value comparator field hvalue hcomparator hfield =>
    simp only [Store.satisfies, hvalue, hcomparator]
    obtain ⟨hmem, hname⟩ := field?_eq_some hfield
    cases subject with
    | loggedCalls =>
      obtain ⟨call, -, rfl⟩ := List.mem_map.mp hrecord
      rw [Store.admits, ← hname]
      exact comparator.truth_predicate_iff _ value (cell_operand_call hmem hrow)
    | datasetEntries =>
      obtain ⟨entry, -, rfl⟩ := List.mem_map.mp hrecord
      obtain ⟨stored, htext, hcell⟩ := cell_operand_entry hmem hrow
      rw [Store.admits, ← hname, htext, Option.all_some]
      exact comparator.truth_predicate_iff _ value hcell
  | @tag value comparator tags hvalue hcomparator hfield _ htags =>
    simp only [Store.satisfies, hvalue, hcomparator]
    cases subject with
    | datasetEntries => cases htags
    | loggedCalls =>
      obtain rfl := Option.some.inj htags
      obtain ⟨call, -, rfl⟩ := List.mem_map.mp hrecord
      rw [Store.admits, Store.callText?_of_unknown hfield]
      exact comparator.truth_predicate_iff _ value
        (hrow.2.2 position filter.field (List.mem_singleton.mpr rfl))

/-- A filter that adds nothing asks for nothing. -/
theorem Adds.satisfies_of_none {position : Nat} {filter : Filter}
    (h : subject.Adds options position filter none) (hrecord : record ∈ store.records subject) :
    store.satisfies options record filter = true := by
  cases h with
  | nothing hnone => simp only [Store.satisfies, hnone]
  | skipped hvalue hcomparator hfield _ htags =>
    cases subject with
    | loggedCalls => cases htags
    | datasetEntries =>
      obtain ⟨entry, -, rfl⟩ := List.mem_map.mp hrecord
      simp only [Store.satisfies, hvalue, hcomparator, Store.admits,
        DatasetEntry.text?_of_unknown hfield, Option.all_none]

/-- The conditions that a list of filters adds say what the filters ask for together. -/
theorem AddsAll.meets_iff {position : Nat} {filters : List Filter} {clauses : List Clause}
    (h : subject.AddsAll options position filters clauses)
    (hrecord : record ∈ store.records subject) {row : JoinedRow}
    (hrow : store.Represents (clauses.filterMap Clause.join) row record) :
    Meets row (clauses.map Clause.predicate) ↔
      filters.all (store.satisfies options record) = true := by
  induction h with
  | nil => exact ⟨fun _ => rfl, fun _ => meets_nil⟩
  | @cons position filter rest clause clauses hfirst hrest ih =>
    rw [List.filterMap_append] at hrow
    have hothers := ih (hrow.mono fun _ => List.mem_append_right _)
    rw [List.all_cons, Bool.and_eq_true, ← hothers]
    cases clause with
    | none =>
      rw [hfirst.satisfies_of_none hrecord]
      exact ⟨fun h => ⟨rfl, h⟩, fun h => h.2⟩
    | some clause =>
      have hjoins : [clause].filterMap Clause.join = clause.join.toList := by
        cases hjoin : clause.join <;> simp [hjoin]
      rw [← hfirst.truth_iff hrecord (hrow.mono fun join hmem => List.mem_append_left _ (by
        rwa [Option.toList_some, hjoins]))]
      exact meets_cons

/-- The conditions of a scope say which records belong to it. -/
theorem meets_scope_iff (hrecord : record ∈ store.records subject) {joins : List LeftJoin}
    {row : JoinedRow} (hrow : store.Represents joins row record) (scopeId : String) :
    Meets row (subject.scope scopeId) ↔ record.inScope scopeId = true := by
  cases subject with
  | loggedCalls =>
    obtain ⟨call, -, rfl⟩ := List.mem_map.mp hrecord
    simp only [scope, meets_cons, Predicate.truth, Operand.cell, hrow.1]
    simp [Meets, LoggedCall.row, Cell.equal, Scalar.cell, Record.inScope]
  | datasetEntries =>
    obtain ⟨entry, -, rfl⟩ := List.mem_map.mp hrecord
    simp only [scope, meets_cons, Predicate.truth, Operand.cell, hrow _]
    cases houtdated : entry.outdated <;>
      simp [Meets, DatasetEntry.row, Cell.equal, Scalar.cell, Record.inScope, houtdated]

/-- The id column gives the id of a record. -/
theorem cell_id (hrecord : record ∈ store.records subject) {joins : List LeftJoin}
    {row : JoinedRow} (hrow : store.Represents joins row record) :
    row.cell subject.id = .text record.id := by
  cases subject with
  | loggedCalls =>
    obtain ⟨call, -, rfl⟩ := List.mem_map.mp hrecord
    exact hrow.1 "id"
  | datasetEntries =>
    obtain ⟨entry, -, rfl⟩ := List.mem_map.mp hrecord
    exact hrow "id"

end Subject

/-- A text is among the bound members of a set if it is one of them. -/
theorem Selection.isAmong_boundIds {ids : NameSet} (hids : ids.isEmpty = false) (name : String) :
    (Cell.text name).isAmong (boundIds ids) = some (ids.contains name) := by
  have hempty : (boundIds ids).isEmpty = false := by
    rwa [boundIds, List.isEmpty_map]
  have hany : (boundIds ids).any (fun value => decide (Cell.text name = value.cell)) =
      ids.contains name := by
    rw [boundIds, List.any_map, NameSet.contains, List.contains_eq_any_beq]
    refine congrArg ids.toList.any (funext fun other => ?_)
    rw [Function.comp_apply, Scalar.cell, Bool.eq_iff_iff, decide_eq_true_eq, Cell.text.injEq,
      beq_iff_eq]
  simp only [Cell.isAmong, hempty, hany, Bool.false_eq_true, if_false, reduceCtorEq]

/-- A set without members contains no name. -/
theorem NameSet.contains_of_isEmpty {set : NameSet} (h : set.isEmpty = true) (name : String) :
    set.contains name = false := by
  rw [contains, List.isEmpty_iff.mp h]
  rfl

/-- The condition of a selection on the id says which ids it asks for. -/
theorem Selection.meets_idPredicates_iff (selection : Selection) {column : Column}
    {row : JoinedRow} {name : String} (hid : row.cell column = .text name) :
    Meets row (selection.idPredicates column) ↔ selection.asksFor name = true := by
  have hnil : Meets row [] := meets_nil
  cases hdefault : selection.defaultToSelected with
  | true =>
    cases hids : selection.deselectedIds.isEmpty with
    | true =>
      simp only [idPredicates, asksFor, hdefault, hids, if_true, hnil,
        NameSet.contains_of_isEmpty hids, Bool.not_false]
    | false =>
      simp only [idPredicates, asksFor, hdefault, hids, if_true, Bool.false_eq_true, if_false,
        meets_cons, hnil, and_true, Predicate.truth, Operand.cell, hid, isAmong_boundIds hids,
        Option.map_some, Option.some.injEq]
  | false =>
    cases hids : selection.selectedIds.isEmpty with
    | true =>
      simp only [idPredicates, asksFor, hdefault, hids, if_true, Bool.false_eq_true, if_false,
        meets_cons, Predicate.truth, NameSet.contains_of_isEmpty hids, Option.some.injEq,
        false_and]
    | false =>
      simp only [idPredicates, asksFor, hdefault, hids, Bool.false_eq_true, if_false,
        meets_cons, hnil, and_true, Predicate.truth, Operand.cell, hid, isAmong_boundIds hids,
        Option.some.injEq]

namespace Subject

variable {subject : Subject} {options : Options} {store : Store} {record : Record}

/-- The condition of a selection on the status says which records have it. -/
theorem meets_status_iff (hrecord : record ∈ store.records subject) {joins : List LeftJoin}
    {row : JoinedRow} (hrow : store.Represents joins row record) (status : Int) :
    Meets row (subject.status.toList.map fun column => .eq (.column column) (.integer status)) ↔
      store.hasStatus status record = true := by
  cases subject with
  | loggedCalls =>
    obtain ⟨call, -, rfl⟩ := List.mem_map.mp hrecord
    simp only [Subject.status, Option.toList_some, List.map_cons, List.map_nil, meets_cons,
      Predicate.truth, Operand.cell, hrow.2.1]
    cases hresponse : store.response? call.id with
    | none => simp [Store.hasStatus, hresponse, Row.absent, Cell.equal]
    | some response =>
      cases hcode : response.statusCode <;>
        simp [Meets, Store.hasStatus, hresponse, hcode, ModelResponse.row, Cell.equal, Scalar.cell]
  | datasetEntries =>
    obtain ⟨entry, -, rfl⟩ := List.mem_map.mp hrecord
    exact ⟨fun _ => rfl, fun _ => meets_nil⟩

/-- **The conditions of a compiled query say whether a record is asked for**, of the joined row
of the record. -/
theorem AddsAll.meets_predicates_iff {filters : List Filter} {clauses : List Clause}
    (h : subject.AddsAll options 0 filters clauses) (scopeId : String)
    (selection : Option Selection) (hrecord : record ∈ store.records subject) :
    Meets ((subject.assemble options scopeId selection clauses).joinedRow store.tables record.row)
        (subject.assemble options scopeId selection clauses).predicates ↔
      store.meets options scopeId filters selection record = true := by
  have hrow := h.represents scopeId selection hrecord
  have hscope := meets_scope_iff hrecord hrow scopeId
  have hfilters := h.meets_iff hrecord hrow
  cases selection with
  | none =>
    simp only [assemble, List.append_nil, Store.meets, Store.selects, Bool.and_true,
      Bool.and_eq_true, ← hscope, ← hfilters]
    exact List.forall_mem_append
  | some selection =>
    have hid := selection.meets_idPredicates_iff (cell_id hrecord hrow)
    have hstatus := meets_status_iff hrecord hrow options.successStatus
    simp only [assemble, Selection.predicates, Store.meets, Store.selects, Bool.and_eq_true,
      ← hscope, ← hfilters, ← hid, ← hstatus]
    simp only [Meets, List.forall_mem_append]

end Subject

end LogFilter
