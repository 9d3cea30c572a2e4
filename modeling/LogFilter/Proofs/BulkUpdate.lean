import LogFilter.Proofs.PlannedOrder

/-!
# Bulk Updates

A bulk update selects ids, and then it makes a list of assignments to the tags of each of them:
one loop inside another, in which every step puts one tag or removes one. The ids are selected
before anything is written, and they need not be ids of logged calls, since a query may be one
for dataset entries.

What a bulk update leaves behind is said for one tag at a time, by the call and the name: it is
what the assignments say if the call is selected, and what it was otherwise. Each loop keeps
this: the names of the assignments are distinct, so that a later one does not touch what an
earlier one has done, and an assignment that is made again changes nothing.

## Main definitions

* `Store.assigned?`: the tag that a call has after assignments to it.
* `Store.UpdatedTo`: what a bulk update makes of a store.

## Main results

* `Store.WellFormed.tag?_assignTag_self`, `Store.tag?_assignTag_of_ne`: what one assignment does.
* `Store.WellFormed.tag?_assignAll`: what assignments to a list of ids do.
* `Subject.updateTags_changes_selected`: a bulk update changes the calls that were selected.
* `Subject.count_apart`: a query that selects nothing and cannot be counted.
-/

namespace LogFilter

open Sql

/-! ### Putting a tag -/

/-- A tag that is put is found under its key, with the project of the one that was there. -/
theorem find?_putTag_self (tag : CallTag) (tags : List CallTag) :
    (putTag tag tags).find? (CallTag.isFor tag.callId tag.name) =
      some { (tags.find? (CallTag.isFor tag.callId tag.name)).getD tag with
        value := tag.value } := by
  induction tags with
  | nil => simp [putTag, CallTag.isFor]
  | cons other rest ih =>
    rw [putTag, List.find?_cons]
    cases hfor : other.isFor tag.callId tag.name with
    | true =>
      have hput : CallTag.isFor tag.callId tag.name { other with value := tag.value } = true := hfor
      rw [if_pos rfl, List.find?_cons_of_pos hput]
      rfl
    | false => rw [if_neg Bool.false_ne_true, List.find?_cons, hfor, ih]

/-- A tag that is put leaves the tags of other keys as they are. -/
theorem find?_putTag_of_ne {tag : CallTag} (tags : List CallTag) {callId name : String}
    (hne : tag.key ≠ (callId, name)) :
    (putTag tag tags).find? (CallTag.isFor callId name) =
      tags.find? (CallTag.isFor callId name) := by
  have hother {other : CallTag} (hkey : other.key = tag.key) :
      ¬other.isFor callId name = true :=
    fun hfor => hne (hkey.symm.trans (CallTag.isFor_iff.mp hfor))
  induction tags with
  | nil => rw [putTag, List.find?_cons_of_neg (hother rfl)]
  | cons other rest ih =>
    rw [putTag]
    split
    · next hfor =>
      have hkey : other.key = tag.key := CallTag.isFor_iff.mp hfor
      have hput : CallTag.key { other with value := tag.value } = tag.key := hkey
      rw [List.find?_cons_of_neg (hother hput), List.find?_cons_of_neg (hother hkey)]
    · rw [List.find?_cons, List.find?_cons, ih]

/-- The names of a map are distinct. -/
theorem NameMap.nodup_names {α : Type} (m : NameMap α) : (m.entries.map Prod.fst).Nodup :=
  List.pairwise_map.mpr (m.increasing.imp fun hlt => String.ne_of_lt hlt)

namespace Store

variable {store : Store} {callId name : String}

/-! ### Finding a tag -/

/-- A tag that is found is in the table and has the key that it was looked for by. -/
theorem tag?_eq_some {tag : CallTag} (h : store.tag? callId name = some tag) :
    tag ∈ store.tags ∧ tag.key = (callId, name) :=
  ⟨List.mem_of_find?_eq_some h, CallTag.isFor_iff.mp (List.find?_some h)⟩

/-- A row is found by its key where no two rows have one key. -/
theorem find?_of_nodup_key {α κ : Type} {key : α → κ} {p : α → Bool} {rows : List α} {row : α}
    (hkeys : (rows.map key).Nodup) (hmem : row ∈ rows)
    (hp : ∀ other, p other = true ↔ key other = key row) : rows.find? p = some row := by
  cases hfound : rows.find? p with
  | none => exact absurd ((hp row).mpr rfl) (List.find?_eq_none.mp hfound row hmem)
  | some other =>
    have hkey := (hp other).mp (List.find?_some hfound)
    rw [List.inj_on_of_nodup_map hkeys (List.mem_of_find?_eq_some hfound) hmem hkey]

/-- In a well-formed store every call is found by its id. -/
theorem WellFormed.call?_of_mem (h : store.WellFormed) {call : LoggedCall}
    (hmem : call ∈ store.calls) : store.call? call.id = some call :=
  find?_of_nodup_key h.callIds hmem fun _ => beq_iff_eq

/-- In a well-formed store every tag is found by its call and its name. -/
theorem WellFormed.tag?_of_mem (h : store.WellFormed) {tag : CallTag} (hmem : tag ∈ store.tags) :
    store.tag? tag.callId tag.name = some tag :=
  find?_of_nodup_key h.tagKeys hmem fun _ => CallTag.isFor_iff

/-- In a well-formed store the tag of a call has the project of the call. -/
theorem WellFormed.projectId_of_tag? (h : store.WellFormed) {call : LoggedCall} {tag : CallTag}
    (hcall : store.call? callId = some call) (htag : store.tag? callId name = some tag) :
    tag.projectId = call.projectId := by
  obtain ⟨hmem, hid⟩ := call?_eq_some hcall
  obtain ⟨htagMem, hkey⟩ := tag?_eq_some htag
  obtain ⟨owner, howner, hownerId, hproject⟩ := h.tagCall tag htagMem
  have hsame : owner = call := by
    refine List.inj_on_of_nodup_map h.callIds howner hmem ?_
    rw [hownerId, hid]
    exact congrArg Prod.fst hkey
  rw [← hproject, hsame]

/-- In a well-formed store an id that is of no call has no tags. -/
theorem WellFormed.tag?_of_call?_eq_none (h : store.WellFormed)
    (hcall : store.call? callId = none) (name : String) : store.tag? callId name = none := by
  refine List.find?_eq_none.mpr fun tag hmem hfor => ?_
  obtain ⟨owner, howner, hid, -⟩ := h.tagCall tag hmem
  refine call?_eq_none_iff.mp hcall owner howner (hid.trans ?_)
  exact congrArg Prod.fst (CallTag.isFor_iff.mp hfor)

/-! ### One assignment -/

/-- The tag of a name that a call **has after assignments** to it: the one that is assigned, none
if the tag is removed, and the one that it had if the name is not assigned. -/
def assigned? (store : Store) (assignments : List (String × Option String))
    (callId name : String) : Option CallTag :=
  match assignments.lookup name with
  | some (some value) =>
      (store.call? callId).map fun call => ⟨callId, call.projectId, name, some value⟩
  | some none => none
  | none => store.tag? callId name

/-- What a call has after assignments depends on the calls, and on the tag that it had only where
that stays. -/
theorem assigned?_congr {other : Store} {assignments : List (String × Option String)}
    (hcalls : other.calls = store.calls)
    (htag : assignments.lookup name = none → other.tag? callId name = store.tag? callId name) :
    other.assigned? assignments callId name = store.assigned? assignments callId name := by
  have hcall : other.call? callId = store.call? callId := by rw [call?, call?, hcalls]
  unfold assigned?
  split
  · rw [hcall]
  · rfl
  · next hnone => exact htag hnone

/-- An assignment changes nothing but the tags. -/
theorem assignTag_eq (store : Store) (id : String) (assignment : String × Option String) :
    ∃ tags, store.assignTag id assignment = { store with tags := tags } := by
  unfold assignTag setTag removeTag
  split
  · split <;> exact ⟨_, rfl⟩
  · exact ⟨_, rfl⟩

/-- Setting a tag leaves every other tag as it is. -/
theorem tag?_setTag_of_ne {id first : String} (hne : (id, first) ≠ (callId, name))
    (value : Option String) :
    (store.setTag id first value).1.tag? callId name = store.tag? callId name := by
  unfold setTag
  split
  · exact find?_putTag_of_ne store.tags hne
  · rfl

/-- So does removing a tag. -/
theorem tag?_removeTag_of_ne {id first : String} (hne : (id, first) ≠ (callId, name)) :
    (store.removeTag id first).1.tag? callId name = store.tag? callId name := by
  refine find?_filter_of_imp fun tag _ hfor => ?_
  rw [Bool.not_eq_true', Bool.eq_false_iff]
  intro hother
  exact hne ((CallTag.isFor_iff.mp hother).symm.trans (CallTag.isFor_iff.mp hfor))

/-- A tag that is removed is not there. -/
theorem tag?_removeTag_self (store : Store) (callId name : String) :
    (store.removeTag callId name).1.tag? callId name = none := by
  refine List.find?_eq_none.mpr fun tag hmem hfor => ?_
  have hkept := (List.mem_filter.mp hmem).2
  rw [hfor] at hkept
  cases hkept

/-- An assignment to a tag leaves every other tag as it is. -/
theorem tag?_assignTag_of_ne {id : String} {assignment : String × Option String}
    (hne : (id, assignment.1) ≠ (callId, name)) :
    (store.assignTag id assignment).tag? callId name = store.tag? callId name := by
  unfold assignTag
  split
  · exact tag?_setTag_of_ne hne _
  · exact tag?_removeTag_of_ne hne

/-- **An assignment to a tag** leaves the tag that is assigned. -/
theorem WellFormed.tag?_assignTag_self (h : store.WellFormed) (callId name : String)
    (value : Option String) :
    (store.assignTag callId (name, value)).tag? callId name =
      store.assigned? [(name, value)] callId name := by
  have hlookup : List.lookup name [(name, value)] = some value := by
    rw [List.lookup_cons_self]
  unfold assigned?
  rw [hlookup]
  cases value with
  | none => exact store.tag?_removeTag_self callId name
  | some value =>
    unfold Store.assignTag Store.setTag
    cases hcall : store.call? callId with
    | none => exact h.tag?_of_call?_eq_none hcall name
    | some call =>
      refine (find?_putTag_self ⟨callId, call.projectId, name, some value⟩ store.tags).trans ?_
      change some { (store.tag? callId name).getD _ with value := some value } = _
      cases htag : store.tag? callId name with
      | none => rfl
      | some old =>
        obtain ⟨-, hkey⟩ := tag?_eq_some htag
        have hproject := h.projectId_of_tag? hcall htag
        obtain ⟨hold, hname⟩ := Prod.mk.inj hkey
        simp only [Option.getD_some, Option.map_some, hold, hname, hproject]

/-! ### The loops -/

/-- Changes of nothing but the tags are so one after the other. -/
theorem foldl_eq {α : Type} {change : Store → α → Store}
    (hchange : ∀ store step, ∃ tags, change store step = { store with tags := tags })
    (steps : List α) (store : Store) :
    ∃ tags, steps.foldl change store = { store with tags := tags } := by
  induction steps generalizing store with
  | nil => exact ⟨store.tags, rfl⟩
  | cons step rest ih =>
    obtain ⟨tags, hfirst⟩ := hchange store step
    rw [List.foldl_cons, hfirst]
    exact ih _

/-- Assignments to one call change nothing but the tags. -/
theorem assignTags_eq (assignments : List (String × Option String)) (store : Store)
    (id : String) : ∃ tags, store.assignTags assignments id = { store with tags := tags } :=
  foldl_eq (fun store assignment => store.assignTag_eq id assignment) assignments store

/-- Assignments to a call leave the tags of other calls as they are. -/
theorem tag?_assignTags_of_ne {id : String} (hne : id ≠ callId)
    (assignments : List (String × Option String)) :
    (store.assignTags assignments id).tag? callId name = store.tag? callId name := by
  unfold assignTags
  induction assignments generalizing store with
  | nil => rfl
  | cons assignment rest ih =>
    rw [List.foldl_cons, ih, tag?_assignTag_of_ne]
    exact fun hkey => hne (congrArg Prod.fst hkey)

/-- **Assignments with distinct names to a call** leave the tags that are assigned: a later one
does not touch the tag of an earlier one. -/
theorem WellFormed.tag?_assignTags_self (h : store.WellFormed)
    {assignments : List (String × Option String)} (hnames : (assignments.map Prod.fst).Nodup)
    (callId name : String) :
    (store.assignTags assignments callId).tag? callId name =
      store.assigned? assignments callId name := by
  induction assignments generalizing store with
  | nil => rfl
  | cons assignment rest ih =>
    obtain ⟨hnew, hrest⟩ := List.nodup_cons.mp hnames
    obtain ⟨tags, hfirst⟩ := store.assignTag_eq callId assignment
    obtain ⟨first, value⟩ := assignment
    refine (ih (h.assignTag callId (first, value)) hrest).trans ?_
    by_cases hname : name = first
    · -- The name does not occur again, so the others leave what the first assignment has made.
      subst hname
      have hlater : rest.lookup name = none := List.lookup_eq_none_iff.mpr fun later hmem =>
        bne_iff_ne.mpr fun hsame => hnew (List.mem_map.mpr ⟨later, hmem, hsame.symm⟩)
      rw [assigned?, hlater]
      simp only [h.tag?_assignTag_self callId name value, assigned?, List.lookup_cons_self]
    · have hskip : ((first, value) :: rest).lookup name = rest.lookup name := by
        rw [List.lookup_cons, beq_eq_false_iff_ne.mpr hname]
      have hkeep : store.assigned? rest callId name =
          store.assigned? ((first, value) :: rest) callId name := by
        rw [assigned?, assigned?, hskip]
      rw [← hkeep]
      refine assigned?_congr (by rw [hfirst]) fun _ => tag?_assignTag_of_ne fun hkey => ?_
      exact hname (congrArg Prod.snd hkey).symm

/-- **Assignments to the calls of a list of ids** leave the tags that are assigned to these calls,
and those of other calls as they were. -/
theorem WellFormed.tag?_assignAll (h : store.WellFormed)
    {assignments : List (String × Option String)} (hnames : (assignments.map Prod.fst).Nodup)
    (ids : List String) (callId name : String) :
    (ids.foldl (fun store id => store.assignTags assignments id) store).tag? callId name =
      if callId ∈ ids then store.assigned? assignments callId name
      else store.tag? callId name := by
  induction ids generalizing store with
  | nil => rfl
  | cons id rest ih =>
    obtain ⟨tags, hfirst⟩ := store.assignTags_eq assignments id
    rw [List.foldl_cons, ih (h.assignTags assignments id)]
    by_cases hid : id = callId
    · subst hid
      have hself := h.tag?_assignTags_self hnames id name
      rw [if_pos List.mem_cons_self, hself]
      -- If the id comes again, the same assignments are made to it once more.
      split
      · refine assigned?_congr (by rw [hfirst]) fun hnone => ?_
        rw [hself, assigned?, hnone]
      · rfl
    · have hkept : (store.assignTags assignments id).tag? callId name =
          store.tag? callId name := tag?_assignTags_of_ne hid assignments
      have hmem : callId ∈ id :: rest ↔ callId ∈ rest := by simp [Ne.symm hid]
      rw [hkept, assigned?_congr (by rw [hfirst]) fun _ => hkept]
      simp only [hmem]

/-! ### Bulk updates -/

/-- What a bulk update that **selected some ids** makes of a store: the tags of the selected
calls are what the map says, and everything else is what it was. -/
structure UpdatedTo (store after : Store) (tags : NameMap (Option String)) (ids : List String) :
    Prop where
  calls : after.calls = store.calls
  responses : after.responses = store.responses
  entries : after.entries = store.entries
  /-- A selected call has the tags that are mapped to values, and they have its project. -/
  assigned {call : LoggedCall} {name value : String} : call ∈ store.calls → call.id ∈ ids →
    tags.find? name = some (some value) →
    after.tag? call.id name = some ⟨call.id, call.projectId, name, some value⟩
  /-- A selected id has no tags of the names that are mapped to no value. -/
  removed {id name : String} : id ∈ ids → tags.find? name = some none → after.tag? id name = none
  /-- Other names stay, and all names of ids that are not selected or of no call. -/
  kept {id name : String} :
    tags.find? name = none ∨ id ∉ ids ∨ (∀ call ∈ store.calls, call.id ≠ id) →
    after.tag? id name = store.tag? id name
  /-- Every row is the one tag of its call and its name. -/
  only {tag : CallTag} : tag ∈ after.tags → after.tag? tag.callId tag.name = some tag
  /-- Every row has the project of its call. -/
  project {tag : CallTag} : tag ∈ after.tags →
    ∃ call ∈ after.calls, call.id = tag.callId ∧ call.projectId = tag.projectId

/-- A bulk update of a well-formed store makes the assignments to the ids that were selected. -/
theorem WellFormed.updatedTo_assignAll (h : store.WellFormed) (tags : NameMap (Option String))
    (ids : List String) :
    store.UpdatedTo (ids.foldl (fun store id => store.assignTags tags.entries id) store) tags
      ids := by
  have hafter := h.assignAll tags.entries ids
  have htag (id name : String) := h.tag?_assignAll tags.nodup_names ids id name
  obtain ⟨rows, hfold⟩ := foldl_eq (assignTags_eq tags.entries) ids store
  constructor
  case calls => rw [hfold]
  case responses => rw [hfold]
  case entries => rw [hfold]
  case assigned =>
    intro call name value hcall hmem hfind
    have hlookup : tags.entries.lookup name = some (some value) := hfind
    rw [htag, if_pos hmem, assigned?, hlookup, h.call?_of_mem hcall]
    rfl
  case removed =>
    intro id name hmem hfind
    have hlookup : tags.entries.lookup name = some none := hfind
    rw [htag, if_pos hmem, assigned?, hlookup]
  case kept =>
    intro id name hkept
    rw [htag]
    split
    · next hmem =>
      rcases hkept with hfind | hnot | hnone
      · have hlookup : tags.entries.lookup name = none := hfind
        rw [assigned?, hlookup]
      · exact absurd hmem hnot
      · have hcall := call?_eq_none_iff.mpr hnone
        rw [assigned?, hcall, h.tag?_of_call?_eq_none hcall name]
        split <;> rfl
    · rfl
  case only => exact fun hmem => hafter.tag?_of_mem hmem
  case project => exact fun hmem => hafter.tagCall _ hmem

end Store

namespace Subject

variable {subject : Subject} {options : Options} {scopeId : String} {filters : List Filter}
  {selection : Option Selection} {store : Store}

/-- **A bulk update changes exactly the calls that were selected.** If a compiled query selects
ids in a reachable store, then updating tags with it succeeds, answers how many ids there are,
and makes of the store what the map says of these ids; and the query without a page counts them.
Only with a pattern that is too long counting can fail, and then no ids are selected. -/
theorem updateTags_changes_selected (hstore : store.Reachable) {query : Query}
    (hquery : subject.compile options scopeId filters selection = .ok query)
    {projection : Projection} {ids : List String}
    (hids : store.fetchIds (.select query .sqlite projection) = .ok ids)
    (tags : NameMap (Option String)) :
    ∃ after, store.updateTags (.select query .sqlite projection) tags = .ok (after, ids.length) ∧
      store.UpdatedTo after tags ids ∧
      (projection = .ids → AgreeUnless query.SearchesTooLong
        (store.count (.select query .sqlite .count)) (.ok ids.length)) ∧
      (query.SearchesTooLong → ids = []) := by
  refine ⟨_, Store.updateTags_eq_ok_iff.mpr ⟨ids, hids, rfl⟩,
    hstore.wellFormed.updatedTo_assignAll tags ids, ?_, fun hlong => ?_⟩
  · rintro rfl
    exact count_of_fetchIds hstore.wellFormed hquery hids
  · exact eq_nil_of_searchesTooLong hstore.wellFormed hquery hlong hids

/-- An update of the tag that its own filter tests: the call with the tag is changed, and the
other one, which has none, still has none. -/
theorem updateTags_twoCalls : ∃ after,
    twoCalls.updateTags
        (.select (loggedCalls.assemble {} "p" none
          [callTags.plan ⟨"lc", "id"⟩ 0 "env" (Comparator.equals.predicate .active "prod")])
          .sqlite .ids)
        ⟨[("env", some "dev"), ("owner", none)], by decide⟩ = .ok (after, 1) ∧
      after.tag? "b" "env" = some ⟨"b", "p", "env", some "dev"⟩ ∧
      after.tag? "b" "owner" = none ∧ after.tag? "a" "env" = none := by
  have hquery : loggedCalls.compile {} "p" [⟨"env", "=", some "prod"⟩] none =
      .ok (loggedCalls.assemble {} "p" none
        [callTags.plan ⟨"lc", "id"⟩ 0 "env" (Comparator.equals.predicate .active "prod")]) := rfl
  have hids := fetchIds_compile_of_pairwise reachable_twoCalls.wellFormed hquery rfl (by decide)
    (by decide)
  obtain ⟨after, hupdate, hafter, -⟩ := updateTags_changes_selected reachable_twoCalls hquery hids
    ⟨[("env", some "dev"), ("owner", none)], by decide⟩
  have hcall : (⟨"b", "p", some "m", newYear⟩ : LoggedCall) ∈ twoCalls.calls := by decide
  refine ⟨after, hupdate, ?_, ?_, ?_⟩
  · exact hafter.assigned hcall (by decide) rfl
  · exact hafter.removed (by decide) rfl
  · exact hafter.kept (.inr (.inl (by decide)))

/-- A call whose response is no success. -/
def failedCall : Store :=
  Store.empty.run
    [.record "p" ⟨"a", some "m", newYear, some ⟨.null, none, some 500, none⟩, .empty⟩]

/-- The condition on the model of a search for it. -/
def modelCondition (value : String) : Predicate :=
  .like KnownField.model.operand (.containing value)

/-- The query of a search for a model among nine ids. -/
def modelAmongNine (value : String) : Query :=
  loggedCalls.assemble {} "p" (some ⟨false, letterIds 9, .empty⟩) [⟨none, modelCondition value⟩]

/-- The conditions of the query. -/
theorem mem_predicates_modelAmongNine {value : String} {predicate : Predicate} :
    predicate ∈ (modelAmongNine value).predicates ↔
      predicate = .eq (.column ⟨"lc", "projectId"⟩) (.text "p") ∨
        predicate = modelCondition value ∨
        predicate = .isIn (.column ⟨"lc", "id"⟩) (Selection.boundIds (letterIds 9)) ∨
        predicate = .eq (.column ⟨"lcmr", "statusCode"⟩) (.integer 200) := by
  have hpredicates : (modelAmongNine value).predicates =
      [.eq (.column ⟨"lc", "projectId"⟩) (.text "p"), modelCondition value,
        .isIn (.column ⟨"lc", "id"⟩) (Selection.boundIds (letterIds 9)),
        .eq (.column ⟨"lcmr", "statusCode"⟩) (.integer 200)] := rfl
  simp only [hpredicates, List.mem_cons, List.not_mem_nil, or_false]

/-- The joined row of the call. -/
def failedRow (value : String) : JoinedRow :=
  (modelAmongNine value).joinedRow failedCall.tables
    (Record.call ⟨"a", "p", some "m", newYear⟩).row

/-- For ids the responses lead, and for a count the calls do. -/
theorem aliasesInTurn_modelAmongNine (value : String) :
    (modelAmongNine value).aliasesInTurn .ids = ["lcmr", "lc"] ∧
      (modelAmongNine value).aliasesInTurn .count = ["lc", "lcmr"] := by
  have hids : (modelAmongNine value).predicates.findSome?
      (Predicate.ids? (modelAmongNine value).id) = some (Selection.boundIds (letterIds 9)) := rfl
  have hnine : (Selection.boundIds (letterIds 9)).length = 9 := rfl
  have hresponse : (modelAmongNine value).weight "lcmr" = 1 := rfl
  have hcall : (modelAmongNine value).weight (modelAmongNine value).tableAlias = 2 := rfl
  have hrequires : (modelAmongNine value).requires "lcmr" = true := rfl
  have hleads (projection : Projection) : (modelAmongNine value).leads projection "lcmr" =
      decide (leadCost projection 9 1 2 ≤ leadCost projection 9 2 1) := by
    rw [Query.leads_of_ids hrequires hids, hnine, hresponse, hcall]
  have hids : decide (leadCost .ids 9 1 2 ≤ leadCost .ids 9 2 1) = true := by decide +kernel
  have hcount : decide (leadCost .count 9 1 2 ≤ leadCost .count 9 2 1) = false := by
    decide +kernel
  have hjoins : (modelAmongNine value).joins.map LeftJoin.tableAlias = ["lcmr"] := rfl
  constructor <;> rw [Query.aliasesInTurn_of_join hjoins, hleads]
  · rw [hids]
    rfl
  · rw [hcount]
    rfl

/-- The places of the two conditions that tell something of the call. -/
theorem turn_modelAmongNine (value : String) (projection : Projection) :
    (modelAmongNine value).turn projection (modelCondition value) =
        ((modelAmongNine value).aliasesInTurn projection).idxOf "lc" + 2 ∧
      (modelAmongNine value).turn projection
          (.eq (.column ⟨"lcmr", "statusCode"⟩) (.integer 200)) =
        ((modelAmongNine value).aliasesInTurn projection).idxOf "lcmr" + 2 :=
  ⟨rfl, rfl⟩

/-- For ids the response of the call is looked at first, and the call is left out by its
status. -/
theorem not_failsInTurn_failedRow (value : String) :
    failsInTurn (failedRow value) ((modelAmongNine value).inTurn .ids) = false := by
  obtain ⟨hmodel, hstatus⟩ := turn_modelAmongNine value .ids
  rw [(aliasesInTurn_modelAmongNine value).1] at hmodel hstatus
  have hfalse : (Predicate.eq (.column ⟨"lcmr", "statusCode"⟩) (.integer 200)).truth
      (failedRow value) ≠ some true := by
    have htruth : (Predicate.eq (.column ⟨"lcmr", "statusCode"⟩) (.integer 200)).truth
        (failedRow value) = some false := rfl
    rw [htruth]
    decide
  refine Query.not_failsInTurn_inTurn
    (mem_predicates_modelAmongNine.mpr (.inr (.inr (.inr rfl)))) hfalse ?_
  intro other hother hplace
  rcases mem_predicates_modelAmongNine.mp hother with rfl | rfl | rfl | rfl
  · rfl
  · rw [hmodel, hstatus] at hplace
    exact absurd hplace (by decide)
  · rfl
  · rfl

/-- For a count the call itself is looked at first, and its model with it. -/
theorem failsInTurn_failedRow {value : String}
    (hlong : maxPatternBytes < (LikePattern.containing value).pattern.utf8ByteSize) :
    failsInTurn (failedRow value) ((modelAmongNine value).inTurn .count) = true := by
  obtain ⟨hmodel, hstatus⟩ := turn_modelAmongNine value .count
  rw [(aliasesInTurn_modelAmongNine value).2] at hmodel hstatus
  have htoo : (modelCondition value).isTooLong = true := decide_eq_true hlong
  refine Query.failsInTurn_inTurn (mem_predicates_modelAmongNine.mpr (.inr (.inl rfl))) htoo ?_
  intro other hother hplace
  rcases mem_predicates_modelAmongNine.mp hother with rfl | rfl | rfl | rfl
  · exact .inr rfl
  · exact .inl htoo
  · exact .inr rfl
  · rw [hmodel, hstatus] at hplace
    exact absurd hplace (by decide)

/-- The search compiles to its query. -/
theorem compile_modelAmongNine {value : String} (hpositive : 0 < value.utf8ByteSize) :
    loggedCalls.compile {} "p" [⟨"model", "CONTAINS", some value⟩]
      (some ⟨false, letterIds 9, .empty⟩) = .ok (modelAmongNine value) := by
  have hspecified : Filter.specified? ⟨"model", "CONTAINS", some value⟩ = some value :=
    Filter.specified?_of_pos hpositive
  have hadds : loggedCalls.Adds {} 0 ⟨"model", "CONTAINS", some value⟩
      (some ⟨none, modelCondition value⟩) := .column hspecified rfl rfl
  exact compile_eq_ok_iff.mpr ⟨_, .cons hadds .nil, rfl⟩

/-- **A query can select nothing and not be counted.** With a pattern that is too long and nine ids
to look for, the ids are had, of which there are none: the response of the call is looked at before
its model. To count them, the model is looked at first. -/
theorem count_apart : failedCall.Reachable ∧ ∃ query,
    loggedCalls.compile {} "p" [⟨"model", "CONTAINS", some (letters maxPatternBytes)⟩]
        (some ⟨false, letterIds 9, .empty⟩) = .ok query ∧
      failedCall.fetchIds (.select query .sqlite .ids) = .ok [] ∧
      failedCall.count (.select query .sqlite .count) = .error .patternTooLong := by
  have hbytes := utf8ByteSize_letters maxPatternBytes
  -- The text itself is never looked at: its size is all that matters.
  generalize letters maxPatternBytes = value at hbytes
  have hlong := maxPatternBytes_lt_containing (Nat.le_of_eq hbytes.symm)
  have hpositive : 0 < value.utf8ByteSize := Nat.lt_of_lt_of_eq (by decide) hbytes.symm
  have hstore : failedCall.Reachable := ⟨_, _, rfl⟩
  have hquery := compile_modelAmongNine hpositive
  have htoo : (modelAmongNine value).SearchesTooLong :=
    ⟨_, mem_predicates_modelAmongNine.mpr (.inr (.inl rfl)), decide_eq_true hlong⟩
  refine ⟨hstore, _, hquery, ?_, ?_⟩
  · refine fetchIds_planned_eq_nil hstore.wellFormed rfl hquery rfl htoo fun record hrecord => ?_
    obtain rfl := List.mem_singleton.mp hrecord
    exact not_failsInTurn_failedRow value
  · have hscan : (modelAmongNine value).scan failedCall.engine failedCall.tables .count =
        .error .patternTooLong :=
      scan_planned_eq_error hstore.wellFormed rfl hquery rfl List.mem_cons_self
        (failsInTurn_failedRow hlong)
    have hcheck : (modelAmongNine value).check .count = .ok () := rfl
    rw [count_compile_eq hstore.wellFormed hquery, hcheck, hscan]
    rfl

end Subject

end LogFilter
