import LogFilter.Proofs.ComparatorOrder
import LogFilter.Proofs.ReadValues
import LogFilter.Proofs.Reports

/-!
# Stored Payloads

A payload is stored as its compact text. Whatever the text in which a payload arrives, it is stored
under the text of the value that is kept of it, and this text tells the value, if none of its
numbers is a double. So a filter that asks for the compact text of a value finds the records whose
payload is the value, and no others: the payload of a record is a question of text only on the
surface.

Other payloads may have doubles, because no double is written like an integer. All payloads are
formed as the values are that a reader keeps: the names of members increase strictly.

## Main definitions

* `Json.StoredFaithfully`: what the stored text of a value is to the value.
* `Operation.PayloadFormed`: whether the payload of a report is formed as a value that is kept.
* `Store.PayloadsFaithful`: how payloads are stored in a run, and what the text of a value finds.

## Main results

* `Subject.exists_fetchIds_equals`: a filter that asks for equality is answered.
* `Json.storedFaithfully`: the stored text of a value without doubles is one with the value.
* `Store.mem_askedIds_request_iff`, `Store.mem_askedIds_input_iff`: the records that it finds.
* `Store.payloadsFaithful`: payloads are stored faithfully in every run.
-/

namespace LogFilter

open Sql Json

/-! ### Filters for equality -/

/-- **A filter on a known field that asks for equality** compiles, and its query is answered. -/
theorem Subject.exists_fetchIds_equals {store : Store} (hstore : store.WellFormed)
    {subject : Subject} {field value : String} {known : KnownField}
    (hfield : subject.field? field = some known) (hvalue : value ≠ "") (options : Options)
    (scopeId : String) :
    ∃ query, subject.compile options scopeId [Filter.make field .equals value] none = .ok query ∧
      store.fetchIds (.select query .sqlite .ids) =
        .ok (store.askedIds subject options scopeId [Filter.make field .equals value] none) := by
  have hspecified := Filter.specified?_make hvalue field .equals
  have htoken : Comparator.ofToken (Filter.make field .equals value).comparator = .ok .equals :=
    Comparator.equals.ofToken_token
  have hadds : subject.Adds options 0 (Filter.make field .equals value) _ :=
    .column hspecified htoken hfield
  obtain ⟨query, hquery⟩ : ∃ query, subject.compile options scopeId
      [Filter.make field .equals value] none = .ok query :=
    ⟨_, compile_eq_ok_iff.mpr ⟨_, .cons hadds .nil, rfl⟩⟩
  refine ⟨query, hquery, ?_⟩
  refine (fetchIds_compile_singleton hstore hquery).resolve_right fun ⟨hlong, _⟩ => ?_
  obtain ⟨hpattern, -⟩ := (Filter.isTooLong_make hvalue).mp hlong
  exact hpattern.elim nofun nofun

/-- A record satisfies such a filter if its field admits the value. -/
theorem Store.satisfies_equals (store : Store) (options : Options) (record : Record)
    {field value : String} (hvalue : value ≠ "") :
    store.satisfies options record (Filter.make field .equals value) =
      store.admits .equals options.wildcards value field record := by
  have htoken : Comparator.ofToken (Filter.make field .equals value).comparator = .ok .equals :=
    Comparator.equals.ofToken_token
  simp only [Store.satisfies, Filter.specified?_make hvalue, htoken]
  rfl

/-- The ids that one filter asks for in a scope are those of the records that satisfy it. -/
theorem Store.mem_askedIds_singleton_iff {store : Store} {subject : Subject} {options : Options}
    {scopeId : String} {filter : Filter} {id : String} :
    id ∈ store.askedIds subject options scopeId [filter] none ↔
      ∃ record ∈ store.records subject, record.inScope scopeId = true ∧
        store.satisfies options record filter = true ∧ record.id = id := by
  simp only [Store.askedIds, List.mem_map, Store.mem_asked, Store.meets, Store.selects,
    List.all_cons, List.all_nil, Bool.and_true, Bool.and_eq_true, and_assoc]

/-! ### The stored text of a value -/

namespace Json

/-- What the **stored text of a value** is to the value. -/
structure StoredFaithfully (value : Json) : Prop where
  /-- It reads back as the value, wherever there is room for it. -/
  readsBack : ∀ room, value.depth ≤ room → readWhole (ofDocument room) value.compact = .ok value
  /-- Any other text that is written for the value arrives as the value as well: with its members
  in any order, blanks anywhere, and any escapes. -/
  arrives : ∀ written text room, IsText written text → written.kept = value →
    written.depth ≤ room → readWhole (ofDocument room) text = .ok value
  /-- Of all values it is stored for this one only. -/
  tells : ∀ other : Json, other.Formed Number.WellFormed →
    (other.compact = value.compact ↔ other = value)

/-- **The stored text of a value without doubles is one with the value.** -/
theorem storedFaithfully {value : Json} (h : value.Formed Number.Whole) :
    value.StoredFaithfully where
  readsBack := fun _ => h.readWhole_compact
  arrives := fun _ _ _ htext hkept hdepth => hkept ▸ readWhole_ofDocument htext hdepth
  tells := fun _ => compact_inj h

/-- A compact text is not empty. -/
theorem Formed.compact_ne_empty {value : Json} (h : value.Formed Number.Whole) :
    value.compact ≠ "" := by
  obtain ⟨c, tail, hwrite, -⟩ := exists_write_eq_cons (h.mono fun _ => .whole) []
  rw [compact, hwrite]
  exact fun hempty => List.cons_ne_nil c tail (String.ofList_injective hempty)

end Json

/-! ### Records with a payload -/

/-- Whether the **payload of a report** is formed as a value that is kept. -/
def Operation.PayloadFormed : Operation → Prop
  | record _ call => ∀ response ∈ call.response, response.reqPayload.Formed Number.WellFormed
  | addEntry entry => entry.messages.Formed Number.WellFormed
  | _ => True

namespace Store

/-- How **payloads are stored** in a run from the empty store, with some engine, and what the text
of a value finds after it. -/
structure PayloadsFaithful (engine : Sql.Engine) (operations : List Operation) (value : Json) :
    Prop where
  /-- What the stored text of the value is to the value. -/
  text : value.StoredFaithfully
  /-- The payloads of a recorded response are stored as their compact texts. -/
  responses : ∀ projectId call response, (projectId, call) ∈ (empty engine).recordedIn operations →
    call.response = some response →
    ∃ row, ((empty engine).run operations).response? call.id = some row ∧
      row.reqPayload = response.reqPayload.compact ∧
      row.respPayload = response.respPayload.map Json.compact
  /-- So are those of a new entry. -/
  entries : ∀ entry ∈ (empty engine).addedIn operations,
    ∃ row ∈ ((empty engine).run operations).entries,
    row.id = entry.id ∧ row.messages = entry.messages.compact ∧
      row.output = entry.output.map Json.compact
  /-- The calls that are found by the text are those of the project with the request payload. -/
  requests : ∀ options projectId, ∃ query ids,
    Subject.loggedCalls.compile options projectId [Filter.make "Request" .equals value.compact]
      none = .ok query ∧
    ((empty engine).run operations).fetchIds (.select query .sqlite .ids) = .ok ids ∧ ids.Nodup ∧
    ∀ id, id ∈ ids ↔ ∃ call response, (projectId, call) ∈ (empty engine).recordedIn operations ∧
      call.id = id ∧ call.response = some response ∧ response.reqPayload = value
  /-- The entries that are found by it are those of the dataset, unless they are outdated, with
  the messages. -/
  inputs : ∀ options datasetId, ∃ query ids,
    Subject.datasetEntries.compile options datasetId [Filter.make "Input" .equals value.compact]
      none = .ok query ∧
    ((empty engine).run operations).fetchIds (.select query .sqlite .ids) = .ok ids ∧ ids.Nodup ∧
    ∀ id, id ∈ ids ↔ ∃ entry ∈ (empty engine).addedIn operations,
      entry.id = id ∧ entry.datasetId = datasetId ∧ entry.outdated = false ∧
      entry.messages = value

variable {engine : Sql.Engine} {operations : List Operation} {value : Json}

/-- The calls after a run from the empty store are those that are recorded in it. -/
theorem mem_calls_run_iff {call : LoggedCall} :
    call ∈ ((empty engine).run operations).calls ↔
      ∃ projectId report, (projectId, report) ∈ (empty engine).recordedIn operations ∧
        report.toRow projectId = call := by
  rw [(WellFormed.empty engine).calls_run, empty, List.nil_append, List.mem_map, Prod.exists]

/-- The entries after it are those that are added in it. -/
theorem mem_entries_run_iff {entry : DatasetEntry} :
    entry ∈ ((empty engine).run operations).entries ↔
      ∃ report ∈ (empty engine).addedIn operations, report.toRow = entry := by
  rw [(WellFormed.empty engine).entries_run, empty, List.nil_append, List.mem_map]

/-- The field of the request payload admits the text of a value for a recorded call if this is its
payload. -/
theorem admits_request_iff (hformed : ∀ operation ∈ operations, operation.PayloadFormed)
    (hvalue : value.Formed Number.Whole) {projectId : String} {call : CallReport}
    (hcall : (projectId, call) ∈ (empty engine).recordedIn operations) (wildcards : Wildcards) :
    ((empty engine).run operations).admits .equals wildcards value.compact "Request"
        (.call (call.toRow projectId)) = true ↔
      ∃ response, call.response = some response ∧ response.reqPayload = value := by
  have htext : ((empty engine).run operations).callText? (call.toRow projectId) "Request" =
      call.response.map fun response => response.reqPayload.compact := by
    change (((empty engine).run operations).response? call.id).map ModelResponse.reqPayload = _
    rw [response?_run hcall, CallReport.responseRow, Option.map_map]
    rfl
  rw [admits, htext, Comparator.admits, beq_iff_eq, Option.map_eq_some_iff]
  refine exists_congr fun response => and_congr_right fun hresponse => ?_
  exact compact_inj hvalue (hformed _ (mem_of_mem_recordedIn hcall) response hresponse)

/-- The field of the messages admits it for a new entry if these are the value. -/
theorem admits_input_iff (hformed : ∀ operation ∈ operations, operation.PayloadFormed)
    (hvalue : value.Formed Number.Whole) {entry : EntryReport}
    (hentry : entry ∈ (empty engine).addedIn operations) (wildcards : Wildcards) :
    ((empty engine).run operations).admits .equals wildcards value.compact "Input"
        (.entry entry.toRow) = true ↔ entry.messages = value := by
  have htext : entry.toRow.text? "Input" = some (some entry.messages.compact) := rfl
  rw [admits, htext, Option.all_some, Comparator.admits, beq_iff_eq, Option.some.injEq]
  exact compact_inj hvalue (hformed _ (mem_of_mem_addedIn hentry))

/-- **The calls that the text of a value finds** are those of the project that have the value as
their request payload. -/
theorem mem_askedIds_request_iff (hformed : ∀ operation ∈ operations, operation.PayloadFormed)
    (hvalue : value.Formed Number.Whole) (options : Options) (projectId id : String) :
    id ∈ ((empty engine).run operations).askedIds .loggedCalls options projectId
        [Filter.make "Request" .equals value.compact] none ↔
      ∃ call response, (projectId, call) ∈ (empty engine).recordedIn operations ∧
        call.id = id ∧ call.response = some response ∧ response.reqPayload = value := by
  simp only [mem_askedIds_singleton_iff, satisfies_equals _ _ _ hvalue.compact_ne_empty, records,
    List.mem_map]
  constructor
  · rintro ⟨_, ⟨_, hrow, rfl⟩, hscope, hadmits, rfl⟩
    obtain ⟨project, call, hcall, rfl⟩ := mem_calls_run_iff.mp hrow
    obtain rfl : project = projectId := beq_iff_eq.mp hscope
    obtain ⟨response, hresponse, hpayload⟩ :=
      (admits_request_iff hformed hvalue hcall _).mp hadmits
    exact ⟨call, response, hcall, rfl, hresponse, hpayload⟩
  · rintro ⟨call, response, hcall, rfl, hresponse, hpayload⟩
    refine ⟨_, ⟨_, mem_calls_run_iff.mpr ⟨_, _, hcall, rfl⟩, rfl⟩, BEq.rfl, ?_, rfl⟩
    exact (admits_request_iff hformed hvalue hcall _).mpr ⟨response, hresponse, hpayload⟩

/-- **The entries that it finds** are those of the dataset that are not outdated and have the value
as their messages. -/
theorem mem_askedIds_input_iff (hformed : ∀ operation ∈ operations, operation.PayloadFormed)
    (hvalue : value.Formed Number.Whole) (options : Options) (datasetId id : String) :
    id ∈ ((empty engine).run operations).askedIds .datasetEntries options datasetId
        [Filter.make "Input" .equals value.compact] none ↔
      ∃ entry ∈ (empty engine).addedIn operations, entry.id = id ∧ entry.datasetId = datasetId ∧
        entry.outdated = false ∧ entry.messages = value := by
  have hscope (entry : EntryReport) : Record.inScope datasetId (.entry entry.toRow) = true ↔
      entry.datasetId = datasetId ∧ entry.outdated = false := by
    simp [Record.inScope, EntryReport.toRow]
  simp only [mem_askedIds_singleton_iff, satisfies_equals _ _ _ hvalue.compact_ne_empty, records,
    List.mem_map]
  constructor
  · rintro ⟨_, ⟨_, hrow, rfl⟩, hin, hadmits, rfl⟩
    obtain ⟨entry, hentry, rfl⟩ := mem_entries_run_iff.mp hrow
    obtain ⟨hdataset, hcurrent⟩ := (hscope entry).mp hin
    exact ⟨entry, hentry, rfl, hdataset, hcurrent,
      (admits_input_iff hformed hvalue hentry _).mp hadmits⟩
  · rintro ⟨entry, hentry, rfl, hdataset, hcurrent, hmessages⟩
    refine ⟨_, ⟨_, mem_entries_run_iff.mpr ⟨entry, hentry, rfl⟩, rfl⟩, ?_, ?_, rfl⟩
    · exact (hscope entry).mpr ⟨hdataset, hcurrent⟩
    · exact (admits_input_iff hformed hvalue hentry _).mpr hmessages

/-- **Payloads are stored faithfully**: after every run of operations, with any engine and for any
value without doubles. -/
theorem payloadsFaithful (hformed : ∀ operation ∈ operations, operation.PayloadFormed)
    (hvalue : value.Formed Number.Whole) : PayloadsFaithful engine operations value := by
  have hstore := (WellFormed.empty engine).run operations
  constructor
  case text => exact storedFaithfully hvalue
  case responses =>
    intro projectId call response hcall hresponse
    refine ⟨response.toRow call.id, ?_, rfl, rfl⟩
    rw [response?_run hcall, CallReport.responseRow, hresponse]
    rfl
  case entries =>
    exact fun entry hentry => ⟨_, mem_entries_run_iff.mpr ⟨entry, hentry, rfl⟩, rfl, rfl, rfl⟩
  case requests =>
    intro options projectId
    obtain ⟨query, hquery, hids⟩ := @Subject.exists_fetchIds_equals _ hstore .loggedCalls
      "Request" _ .request rfl hvalue.compact_ne_empty options projectId
    exact ⟨query, _, hquery, hids, Subject.nodup_map_id_asked hstore,
      mem_askedIds_request_iff hformed hvalue options projectId⟩
  case inputs =>
    intro options datasetId
    obtain ⟨query, hquery, hids⟩ := @Subject.exists_fetchIds_equals _ hstore .datasetEntries
      "Input" _ .input rfl hvalue.compact_ne_empty options datasetId
    exact ⟨query, _, hquery, hids, Subject.nodup_map_id_asked hstore,
      mem_askedIds_input_iff hformed hvalue options datasetId⟩

/-- A value with the ends of the range of integers and with characters that must be escaped. -/
def endsOfRange : Json :=
  .object [("\n", .array [.integer (-9223372036854775808), .integer 18446744073709551615]),
    ("\"", .object [])]

/-- A call and an entry with one payload. -/
def reportsOf (payload : Json) : List Operation :=
  [.record "p" ⟨"c", none, Subject.newYear, some ⟨payload, none, none, none⟩, .empty⟩,
    .addEntry ⟨"e", "d", payload, none, false, Subject.newYear⟩]

/-- Both are stored faithfully for such a value. -/
theorem payloadsFaithful_endsOfRange :
    (∀ operation ∈ reportsOf endsOfRange, operation.PayloadFormed) ∧
      endsOfRange.Formed Number.Whole ∧
      PayloadsFaithful .planned (reportsOf endsOfRange) endsOfRange ∧
      endsOfRange.compact =
        "\x7b\"\\n\":[-9223372036854775808,18446744073709551615],\"\\\"\":\x7b\x7d\x7d" := by
  have hitems : ∀ item ∈ [integer (-9223372036854775808), integer 18446744073709551615],
      item.Formed Number.Whole := by
    rintro _ (_ | ⟨_, _ | ⟨_, ⟨⟩⟩⟩)
    · exact .number (.integer (.inl (by decide)))
    · exact .number (.integer (.inr (by decide)))
  have hvalue : endsOfRange.Formed Number.Whole := by
    refine .object (by decide) ?_
    rintro _ (_ | ⟨_, _ | ⟨_, ⟨⟩⟩⟩)
    · exact .array hitems
    · exact .object .nil nofun
  have hformed : ∀ operation ∈ reportsOf endsOfRange, operation.PayloadFormed := by
    rintro _ (_ | ⟨_, _ | ⟨_, ⟨⟩⟩⟩)
    · rintro _ ⟨⟩
      exact hvalue.mono fun _ => .whole
    · exact hvalue.mono fun _ => .whole
  exact ⟨hformed, hvalue, payloadsFaithful hformed hvalue, by decide +kernel⟩

end Store

end LogFilter
