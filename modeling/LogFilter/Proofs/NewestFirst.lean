import LogFilter.Proofs.ByteOrder
import LogFilter.Proofs.QueryMeaning
import LogFilter.Proofs.TimestampText
import LogFilter.Timestamp.Reader

/-!
# Newest First

The records of a result are ordered by the texts of their times, and among years of four digits
these are ordered as the instants are. So a result lists the latest record first, whatever the
offset is at which its time was written, and records of one instant by the bytes of their ids.

For other years the texts do not tell. A year is that of the moment in UTC, so even a time that
is written with four digits may belong to the year after: a call that is logged in the first
minute of the year 10000 is listed after one of the year before.

## Main results

* `Record.newer_of_precedes`: of records with years of four digits the newer one comes first.
* `Subject.fetchIds_newest_first`: the results of compiled queries are in this order.
* `Subject.fetchIds_later_last`: the order is not kept over the end of the year 9999.
-/

namespace LogFilter

open Sql

namespace Record

/-- Whether the time of a record is **written as** a local time at an offset from UTC. -/
def WrittenAt (record : Record) (wallClock : Timestamp) (offset : Int) : Prop :=
  ∃ h, record.time = wallClock.shift offset h

/-- Whether the first of two records is **the newer one**, or of the same instant and its id has
the smaller bytes, whatever local times theirs are written as. -/
def Newer (a b : Record) : Prop :=
  ∀ (clock clock' : Timestamp) (offset offset' : Int), a.WrittenAt clock offset →
    b.WrittenAt clock' offset' →
      clock'.instantAt offset' < clock.instantAt offset ∨
        clock'.instantAt offset' = clock.instantAt offset ∧ Text.bytes a.id < Text.bytes b.id

/-- A local time as which the time of a record is written is the instant of the record. -/
theorem WrittenAt.instantAt_eq {record : Record} {wallClock : Timestamp} {offset : Int}
    (h : record.WrittenAt wallClock offset) :
    wallClock.instantAt offset = record.time.instant := by
  obtain ⟨hrange, htime⟩ := h
  rw [htime, Timestamp.instant_shift]

/-- The time of a record is written as itself at no offset. -/
theorem writtenAt_time (record : Record) : record.WrittenAt record.time 0 := by
  refine ⟨by decide, Timestamp.instant_inj ?_⟩
  rw [Timestamp.instant_shift]
  rfl

/-- The newer one of two records is the one of the later instant. -/
theorem newer_iff {a b : Record} :
    a.Newer b ↔ b.time.instant < a.time.instant ∨
      b.time.instant = a.time.instant ∧ Text.bytes a.id < Text.bytes b.id := by
  constructor
  · intro h
    exact h a.time b.time 0 0 a.writtenAt_time b.writtenAt_time
  · intro h clock clock' offset offset' hclock hclock'
    rw [hclock.instantAt_eq, hclock'.instantAt_eq]
    exact h

/-- **Of records with years of four digits the newer one comes first.** -/
theorem newer_of_precedes {a b : Record} (ha : a.time.HasFourDigitYear)
    (hb : b.time.HasFourDigitYear) (hid : a.id ≠ b.id) (h : a.precedes b = true) : a.Newer b := by
  rw [newer_iff, Text.bytes_lt_bytes_iff]
  unfold precedes at h
  rcases lt_trichotomy a.time.instant b.time.instant with hlt | heq | hgt
  · -- Only here do the years matter: an earlier instant has to have the smaller text.
    have htext := Timestamp.text_lt_of_instant_lt ha hb hlt
    rw [if_neg (ne_of_lt htext)] at h
    exact absurd htext (not_lt_of_ge (of_decide_eq_true h))
  · rw [if_pos (congrArg Timestamp.text (Timestamp.instant_inj heq))] at h
    exact .inr ⟨heq.symm, lt_of_le_of_ne (of_decide_eq_true h) hid⟩
  · exact .inl hgt

end Record

namespace Subject

variable {subject : Subject} {options : Options} {scopeId : String} {filters : List Filter}
  {selection : Option Selection} {store : Store}

/-- In a well-formed store the records that are asked for are in the order of their instants, as
far as their years have four digits. -/
theorem pairwise_newer_asked (hstore : store.WellFormed) :
    (store.asked subject options scopeId filters selection).Pairwise fun a b =>
      a.time.HasFourDigitYear → b.time.HasFourDigitYear → a.Newer b := by
  have hids : ((store.asked subject options scopeId filters selection).map Record.id).Nodup :=
    nodup_map_id_asked hstore
  have hdistinct := List.pairwise_map.mp hids
  exact (Store.pairwise_asked.and hdistinct).imp fun hboth ha hb =>
    Record.newer_of_precedes ha hb hboth.2 hboth.1

/-- **Results are listed newest first.** In every reachable store a compiled query for ids gives
the ids of records of the store such that, of any two of them whose years in UTC have four
digits, the first one is of a later instant than the second, at whatever offsets their times are
written, or of the same instant and its id has the smaller bytes; or the query fails, and then
it exceeds a limit, which the error tells. -/
theorem fetchIds_newest_first (hstore : store.Reachable) {query : Query}
    (hquery : subject.compile options scopeId filters selection = .ok query) :
    (∃ records : List Record,
        store.fetchIds (.select query .sqlite .ids) = .ok (records.map Record.id) ∧
        (∀ record ∈ records, record ∈ store.records subject) ∧
        records.Pairwise fun a b =>
          a.time.HasFourDigitYear → b.time.HasFourDigitYear → a.Newer b) ∨
      ∃ error, query.Exceeds .ids error ∧
        store.fetchIds (.select query .sqlite .ids) = .error error := by
  rw [fetchIds_compile_eq hstore.wellFormed hquery]
  refine (yields_compile hquery _ _ .ids _).imp_left fun hids => ⟨_, hids, ?_, ?_⟩
  · exact fun record hmem => (Store.mem_asked.mp hmem).1
  · exact pairwise_newer_asked hstore.wellFormed

/-! ### Two calls -/

/-- Two calls of one project that are logged at two times. -/
def twoCallsAt (first second : Timestamp) : Store :=
  Store.empty.run <| [("a", first), ("b", second)].map fun (id, requestedAt) =>
    .record "p" ⟨id, none, requestedAt, none, .empty⟩

/-- The two calls are a reachable store. -/
theorem reachable_twoCallsAt (first second : Timestamp) : (twoCallsAt first second).Reachable :=
  ⟨_, _, rfl⟩

/-- The query for all calls of the project. -/
def allCalls : Query := loggedCalls.assemble {} "p" none []

/-- Without filters the query compiles to it. -/
theorem compile_allCalls : loggedCalls.compile {} "p" [] none = .ok allCalls := rfl

/-- Of the two calls the one whose time has the greater text comes first. -/
theorem fetchIds_twoCallsAt {first second : Timestamp} (h : second.text < first.text) :
    (twoCallsAt first second).fetchIds (.select allCalls .sqlite .ids) = .ok ["a", "b"] := by
  refine fetchIds_compile_of_pairwise (reachable_twoCallsAt first second).wellFormed
    compile_allCalls rfl (by decide) (List.pairwise_pair.mpr ?_)
  exact (if_neg (ne_of_gt h)).trans (decide_eq_true (le_of_lt h))

/-- A call of which the local time is of the old year is listed before one of which it is of the
new year: it is the later one. -/
theorem fetchIds_across_offsets : ∃ (first second : Timestamp) (records : List Record),
    Timestamp.read? "2023-12-31T23:45:00-01:00" = some first ∧
      Timestamp.read? "2024-01-01T00:30:00+01:00" = some second ∧
      (twoCallsAt first second).fetchIds (.select allCalls .sqlite .ids) = .ok ["a", "b"] ∧
      records.map Record.id = ["a", "b"] ∧ records.Pairwise fun a b =>
        a.time.HasFourDigitYear → b.time.HasFourDigitYear → a.Newer b := by
  let first : Timestamp :=
    ⟨⟨2024, 1, 1, by decide, by decide⟩, 45, 0, 0, by decide, by decide, by decide⟩
  let second : Timestamp :=
    ⟨⟨2023, 12, 31, by decide, by decide⟩, 1410, 0, 0, by decide, by decide, by decide⟩
  have hids := @fetchIds_twoCallsAt first second (by decide)
  rcases fetchIds_newest_first (reachable_twoCallsAt first second) compile_allCalls
    with ⟨records, hok, -, hsorted⟩ | ⟨error, -, herror⟩
  · rw [hids] at hok
    exact ⟨first, second, records, by decide, by decide, hids, (Except.ok.inj hok).symm, hsorted⟩
  · rw [hids] at herror
    cases herror

/-- **The order is not kept over the end of the year 9999**: a call that is logged at the first
moment of the next year is listed after one that is logged half an hour before. -/
theorem fetchIds_later_last : ∃ earlier later : Timestamp,
    Timestamp.read? "9999-12-31T23:30:00Z" = some earlier ∧
      Timestamp.read? "9999-12-31T23:00:00-01:00" = some later ∧
      earlier.instant < later.instant ∧ (twoCallsAt earlier later).Reachable ∧
      loggedCalls.compile {} "p" [] none = .ok allCalls ∧
      (twoCallsAt earlier later).fetchIds (.select allCalls .sqlite .ids) = .ok ["a", "b"] := by
  let earlier : Timestamp :=
    ⟨⟨9999, 12, 31, by decide, by decide⟩, 1410, 0, 0, by decide, by decide, by decide⟩
  let later : Timestamp :=
    ⟨⟨10000, 1, 1, by decide, by decide⟩, 0, 0, 0, by decide, by decide, by decide⟩
  have hinstant : earlier.instant < later.instant := Timestamp.instant_lt_iff.mpr (.inl (by decide))
  exact ⟨earlier, later, by decide, by decide, hinstant, reachable_twoCallsAt earlier later,
    compile_allCalls, fetchIds_twoCallsAt (by decide)⟩

end Subject

end LogFilter
