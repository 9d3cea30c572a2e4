import LogFilter.Proofs.Clauses
import LogFilter.Proofs.LeftJoins
import LogFilter.Proofs.StoreInvariant
import Mathlib.Data.List.Find

/-!
# Compiled Queries on Well-Formed Stores

The joins of a compiled query are the fixed ones of its subject and one for each tag filter,
whose alias is made of the position of the filter. This module shows that such a query is
well scoped, and that in a well-formed store each of its joins has at most one match: the
response of the call, or its tag of the name. The rows of a compiled query are therefore
selected among one joined row for each record of the subject, in which every alias gives the
cells of the record itself, of its response, or of one of its tags.

## Main results

* `Subject.AddsAll.wellScoped`: a compiled query is well scoped.
* `Subject.AddsAll.singleMatch`: its joins have at most one match in a well-formed store.
* `Store.partner_responseJoin`, `Store.partner_tagJoin`: what they match.
-/

namespace LogFilter

open Sql

/-! ### Aliases -/

namespace TagTable

/-- The alias of a tag join tells the position of its filter. -/
theorem aliasAt_inj {tags : TagTable} {i j : Nat} : tags.aliasAt i = tags.aliasAt j ↔ i = j := by
  refine ⟨fun h => ?_, fun h => h ▸ rfl⟩
  have hrepr : i.repr.toList = j.repr.toList :=
    congrArg String.toList ((String.append_right_inj tags.aliasStem).mp h)
  rw [Nat.toList_repr, Nat.toList_repr] at hrepr
  have hnumber := congrArg (fun digits => Nat.ofDigitChars 10 digits 0) hrepr
  simpa only [Nat.ofDigitChars_ten_toDigits] using hnumber

/-- A tag join has plain conditions: it reads its own table and the id of the parent. -/
theorem plain_joinAt (tags : TagTable) (parent : Column) (position : Nat) (name : String) :
    (tags.joinAt parent position name).Plain parent.tableAlias := by
  simp [LeftJoin.Plain, joinAt, Predicate.isTooLong, Predicate.columns, Operand.source]

end TagTable

namespace Subject

variable {subject : Subject} {options : Options}

/-- A join that a filter adds is that of its tag at its position. -/
theorem Adds.join_eq {position : Nat} {filter : Filter} {clause : Clause} {join : LeftJoin}
    (h : subject.Adds options position filter (some clause)) (hjoin : clause.join = some join) :
    ∃ tags, subject.tags = some tags ∧ join = tags.joinAt subject.id position filter.field := by
  cases h with
  | column => cases hjoin
  | tag _ _ _ _ htags => exact ⟨_, htags, (Option.some.inj hjoin).symm⟩

/-- The joins that filters add are tag joins at their positions. -/
theorem AddsAll.exists_joinAt {position : Nat} {filters : List Filter} {clauses : List Clause}
    (h : subject.AddsAll options position filters clauses) {join : LeftJoin}
    (hjoin : join ∈ clauses.filterMap Clause.join) :
    ∃ tags i name, subject.tags = some tags ∧ position ≤ i ∧
      join = tags.joinAt subject.id i name := by
  induction h with
  | nil => cases hjoin
  | cons hfirst _ ih =>
    rw [List.filterMap_append, List.mem_append] at hjoin
    rcases hjoin with hmem | hmem
    · obtain ⟨clause, hclause, hadded⟩ := List.mem_filterMap.mp hmem
      obtain rfl := Option.mem_toList.mp hclause
      obtain ⟨tags, htags, rfl⟩ := hfirst.join_eq hadded
      exact ⟨tags, _, _, htags, Nat.le_refl _, rfl⟩
    · obtain ⟨tags, i, name, htags, hi, rfl⟩ := ih hmem
      exact ⟨tags, i, name, htags, Nat.le_of_succ_le hi, rfl⟩

/-- The aliases of the joins that filters add are distinct. -/
theorem AddsAll.nodup_aliases {position : Nat} {filters : List Filter} {clauses : List Clause}
    (h : subject.AddsAll options position filters clauses) :
    ((clauses.filterMap Clause.join).map LeftJoin.tableAlias).Nodup := by
  induction h with
  | nil => exact List.nodup_nil
  | @cons position _ _ clause clauses hfirst hrest ih =>
    rw [List.filterMap_append, List.map_append]
    refine List.nodup_append'.mpr ⟨?_, ih, ?_⟩
    · cases clause with
      | none => exact List.nodup_nil
      | some clause => cases hjoin : clause.join <;> simp [hjoin]
    · rintro name hfront hback
      obtain ⟨join, hmem, rfl⟩ := List.mem_map.mp hfront
      obtain ⟨added, hadded, hjoin⟩ := List.mem_filterMap.mp hmem
      obtain rfl := Option.mem_toList.mp hadded
      obtain ⟨tags, htags, rfl⟩ := hfirst.join_eq hjoin
      obtain ⟨other, hother, halias⟩ := List.mem_map.mp hback
      obtain ⟨tags', i, name, htags', hi, rfl⟩ := hrest.exists_joinAt hother
      obtain rfl := Option.some.inj (htags.symm.trans htags')
      have hsame : i = position := TagTable.aliasAt_inj.mp halias
      omega

/-- The alias of a tag join of logged calls is none of those that every query has. -/
theorem aliasAt_ne {tags : TagTable} (htags : loggedCalls.tags = some tags) (position : Nat) :
    tags.aliasAt position ≠ "lc" ∧ tags.aliasAt position ≠ "lcmr" := by
  obtain rfl := Option.some.inj htags
  have hstem : (TagTable.aliasAt ⟨"LoggedCallTag", "lct", "loggedCallId", "name", "value"⟩
      position).toList = 'l' :: 'c' :: 't' :: position.repr.toList := by
    simp [TagTable.aliasAt]
  constructor <;> intro h <;> rw [h] at hstem <;> simp at hstem

/-- **A compiled query is well scoped.** -/
theorem AddsAll.wellScoped {filters : List Filter} {clauses : List Clause}
    (h : subject.AddsAll options 0 filters clauses) (scopeId : String)
    (selection : Option Selection) :
    (subject.assemble options scopeId selection clauses).WellScoped where
  distinct := by
    have hnodup := h.nodup_aliases
    cases subject with
    | datasetEntries =>
      have hnone : clauses.filterMap Clause.join = [] := by
        refine List.eq_nil_iff_forall_not_mem.mpr fun join hjoin => ?_
        obtain ⟨tags, _, _, htags, -⟩ := h.exists_joinAt hjoin
        cases htags
      simp [assemble, joins, hnone]
    | loggedCalls =>
      have hfixed (name : String)
          (hmem : name ∈ (clauses.filterMap Clause.join).map LeftJoin.tableAlias) :
          name ≠ "lc" ∧ name ≠ "lcmr" := by
        obtain ⟨join, hjoin, rfl⟩ := List.mem_map.mp hmem
        obtain ⟨tags, i, name, htags, -, rfl⟩ := h.exists_joinAt hjoin
        exact aliasAt_ne htags i
      simp only [assemble, joins, tableAlias, List.cons_append, List.nil_append, List.map_cons,
        List.nodup_cons, List.mem_cons, not_or]
      exact ⟨⟨by decide, fun hmem => (hfixed _ hmem).1 rfl⟩, fun hmem => (hfixed _ hmem).2 rfl,
        hnodup⟩
  plain := by
    intro join hjoin
    rcases List.mem_append.mp hjoin with hmem | hmem
    · cases subject with
      | datasetEntries => cases hmem
      | loggedCalls =>
        obtain rfl := List.mem_singleton.mp hmem
        simp [LeftJoin.Plain, Predicate.isTooLong, Predicate.columns, Subject.id, assemble]
    · obtain ⟨tags, i, name, htags, -, rfl⟩ := h.exists_joinAt hmem
      exact tags.plain_joinAt subject.id i name

end Subject

/-! ### What the joins match in a store -/

/-- Two texts are equal as values if they are equal. -/
theorem Sql.Cell.equal_text_iff {a b : String} :
    (Cell.text a).equal (.text b) = some true ↔ a = b := by
  simp [Cell.equal]

/-- The join of logged calls to their responses. -/
def responseJoin : LeftJoin :=
  ⟨"LoggedCallModelResponse", "lcmr",
    [.columnsEq ⟨"lc", "id"⟩ ⟨"lcmr", "originalLoggedCallId"⟩]⟩

/-- The table of the tags of logged calls. -/
def callTags : TagTable := ⟨"LoggedCallTag", "lct", "loggedCallId", "name", "value"⟩

/-- The join of logged calls to their tags of a name. -/
def tagJoin (position : Nat) (name : String) : LeftJoin :=
  callTags.joinAt ⟨"lc", "id"⟩ position name

/-- A response is joined to a call if it belongs to it. -/
theorem meets_responseJoin_iff {call : LoggedCall} {response : ModelResponse} :
    Meets (("lcmr", response.row) :: [("lc", call.row)]) responseJoin.on ↔
      response.callId = call.id := by
  have hleft : JoinedRow.cell [("lcmr", response.row), ("lc", call.row)] ⟨"lc", "id"⟩ =
      .text call.id := rfl
  have hright : JoinedRow.cell [("lcmr", response.row), ("lc", call.row)]
      ⟨"lcmr", "originalLoggedCallId"⟩ = .text response.callId := rfl
  have hon : responseJoin.on =
      [.columnsEq ⟨"lc", "id"⟩ ⟨"lcmr", "originalLoggedCallId"⟩] := rfl
  rw [hon, meets_cons, Predicate.truth, hleft, hright, Cell.equal_text_iff]
  exact ⟨fun h => h.1.symm, fun h => ⟨h.symm, meets_nil⟩⟩

/-- A tag is joined to a call if it is the tag of the call and the name. -/
theorem meets_tagJoin_iff {call : LoggedCall} {tag : CallTag} {position : Nat} {name : String} :
    Meets (((tagJoin position name).tableAlias, tag.row) :: [("lc", call.row)])
        (tagJoin position name).on ↔ tag.isFor call.id name = true := by
  have hne : "lc" ≠ (tagJoin position name).tableAlias :=
    (Subject.aliasAt_ne (rfl : Subject.loggedCalls.tags = some callTags) position).1.symm
  have hparent : JoinedRow.cell [((tagJoin position name).tableAlias, tag.row), ("lc", call.row)]
      ⟨"lc", "id"⟩ = .text call.id := JoinedRow.cell_cons_of_ne hne
  have hcall : JoinedRow.cell [((tagJoin position name).tableAlias, tag.row), ("lc", call.row)]
      ⟨(tagJoin position name).tableAlias, "loggedCallId"⟩ = .text tag.callId :=
    JoinedRow.cell_cons_self rfl
  have hname : JoinedRow.cell [((tagJoin position name).tableAlias, tag.row), ("lc", call.row)]
      ⟨(tagJoin position name).tableAlias, "name"⟩ = .text tag.name :=
    JoinedRow.cell_cons_self rfl
  have hon : (tagJoin position name).on =
      [.columnsEq ⟨"lc", "id"⟩ ⟨(tagJoin position name).tableAlias, "loggedCallId"⟩,
        .eq (.column ⟨(tagJoin position name).tableAlias, "name"⟩) (.text name)] := rfl
  rw [hon, meets_cons, meets_cons, Predicate.truth, Predicate.truth, Operand.cell, hparent, hcall,
    hname, Scalar.cell, Cell.equal_text_iff, Cell.equal_text_iff, CallTag.isFor, Bool.and_eq_true,
    beq_iff_eq, beq_iff_eq]
  exact ⟨fun h => ⟨h.1.symm, h.2.1⟩, fun h => ⟨h.1.symm, h.2, meets_nil⟩⟩

namespace Store

/-- The response to a call. -/
def response? (store : Store) (callId : String) : Option ModelResponse :=
  store.responses.find? fun response => response.callId == callId

/-- The tag of a call and a name. -/
def tag? (store : Store) (callId name : String) : Option CallTag :=
  store.tags.find? (CallTag.isFor callId name)

/-- A row that passes a filter whenever it is looked for is found among those that pass. -/
theorem find?_filter_of_imp {α : Type} {keep p : α → Bool} {rows : List α}
    (h : ∀ row ∈ rows, p row = true → keep row = true) :
    (rows.filter keep).find? p = rows.find? p := by
  rw [List.find?_filter]
  refine List.find?_congr fun row hmem => ?_
  rw [Bool.eq_iff_iff, decide_eq_true_eq]
  exact ⟨fun hboth => hboth.2, fun hp => ⟨h row hmem hp, hp⟩⟩

/-- The response join gives a call the cells of its response. -/
theorem partner_responseJoin (store : Store) (call : LoggedCall) :
    responseJoin.partner store.tables [("lc", call.row)] =
      ((store.response? call.id).map ModelResponse.row).getD Row.absent := by
  have htable : store.tables responseJoin.table = store.responses.map ModelResponse.row := rfl
  have hfind : (store.responses.map ModelResponse.row).find? (fun cells =>
      decide (Meets ((responseJoin.tableAlias, cells) :: [("lc", call.row)]) responseJoin.on)) =
        (store.response? call.id).map ModelResponse.row := by
    rw [List.find?_map, response?]
    congr 2
    funext response
    exact decide_eq_decide.mpr meets_responseJoin_iff
  rw [LeftJoin.partner, htable, hfind]

/-- A tag join gives a call the cells of its tag of the name. -/
theorem partner_tagJoin (store : Store) (call : LoggedCall) (position : Nat) (name : String) :
    (tagJoin position name).partner store.tables [("lc", call.row)] =
      ((store.tag? call.id name).map CallTag.row).getD Row.absent := by
  have htable : store.tables (tagJoin position name).table = store.tags.map CallTag.row := rfl
  have hfind : (store.tags.map CallTag.row).find? (fun cells =>
      decide (Meets (((tagJoin position name).tableAlias, cells) :: [("lc", call.row)])
        (tagJoin position name).on)) = (store.tag? call.id name).map CallTag.row := by
    rw [List.find?_map, tag?]
    congr 2
    funext tag
    rw [Function.comp_apply, Bool.eq_iff_iff, decide_eq_true_eq, meets_tagJoin_iff]
  rw [LeftJoin.partner, htable, hfind]

namespace WellFormed

variable {store : Store}

/-- In a well-formed store the response join matches at most one response. -/
theorem responseJoin_matchesOnce (h : store.WellFormed) (call : LoggedCall) :
    responseJoin.MatchesOnce store.tables [("lc", call.row)] := by
  have hkeys := List.pairwise_map.mp h.responseKeys
  refine List.pairwise_map.mpr (hkeys.imp fun hne hboth => hne ?_)
  exact (meets_responseJoin_iff.mp hboth.1).trans (meets_responseJoin_iff.mp hboth.2).symm

/-- In a well-formed store a tag join matches at most one tag. -/
theorem tagJoin_matchesOnce (h : store.WellFormed) (call : LoggedCall) (position : Nat)
    (name : String) : (tagJoin position name).MatchesOnce store.tables [("lc", call.row)] := by
  have hkeys := List.pairwise_map.mp h.tagKeys
  refine List.pairwise_map.mpr (hkeys.imp fun hne hboth => hne ?_)
  rw [CallTag.isFor_iff.mp (meets_tagJoin_iff.mp hboth.1),
    CallTag.isFor_iff.mp (meets_tagJoin_iff.mp hboth.2)]

end WellFormed

end Store

namespace Subject

variable {subject : Subject} {options : Options}

/-- **In a well-formed store every join of a compiled query has at most one match.** -/
theorem AddsAll.singleMatch {filters : List Filter} {clauses : List Clause}
    (h : subject.AddsAll options 0 filters clauses) {store : Store} (hstore : store.WellFormed)
    (scopeId : String) (selection : Option Selection) :
    (subject.assemble options scopeId selection clauses).SingleMatch store.tables := by
  intro join hjoin cells hcells
  cases subject with
  | datasetEntries =>
    rcases List.mem_append.mp hjoin with hmem | hmem
    · cases hmem
    · obtain ⟨tags, _, _, htags, -⟩ := h.exists_joinAt hmem
      cases htags
  | loggedCalls =>
    obtain ⟨call, -, rfl⟩ := List.mem_map.mp hcells
    rcases List.mem_append.mp hjoin with hmem | hmem
    · obtain rfl := List.mem_singleton.mp hmem
      exact hstore.responseJoin_matchesOnce call
    · obtain ⟨tags, i, name, htags, -, rfl⟩ := h.exists_joinAt hmem
      obtain rfl := Option.some.inj htags
      exact hstore.tagJoin_matchesOnce call i name

end Subject

end LogFilter
