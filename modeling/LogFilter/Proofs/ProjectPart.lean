import LogFilter.Proofs.QueryMeaning

/-!
# The Part of One Project

The store keeps the rows of all projects in the same tables, and only calls and tags name
their project. This module cuts out the part of one project (`Store.ofProject`) and shows that
the part is like the whole as far as the project can see: it is well formed, it has the same
responses and tags for the calls of the project, and the same tag names.

A change that is about one call (`Store.LocalTo`) does to the part of the project that owns the
call what it does to the whole, and nothing to the part of any other project.

## Main results

* `Store.WellFormed.ofProject`: the part of a project is well formed.
* `Store.LocalTo.setTag`, `Store.LocalTo.removeTag`: changes to tags are about one call.
* `Store.WellFormed.ofProject_assignAll`: a bulk update does to the part of a project what it
  does to the whole.
* `Store.WellFormed.ofProject_record`, `Store.WellFormed.ofProject_record_of_ne`: so does
  recording a call, and one of another project does nothing to it.
-/

namespace LogFilter

open Sql

namespace Store

/-- Whether a project **owns** an id: whether it has a logged call of that id. -/
def owns (store : Store) (project id : String) : Bool :=
  store.calls.any fun call => call.id == id && call.projectId == project

/-- The **part of a store that belongs to a project**: its calls, the responses to these and
its tags, with the same engine. Dataset entries belong to no project. -/
def ofProject (store : Store) (project : String) : Store where
  calls := store.calls.filter fun call => call.projectId == project
  responses := store.responses.filter fun response => store.owns project response.callId
  tags := store.tags.filter fun tag => tag.projectId == project
  entries := []
  engine := store.engine

variable {store : Store} {project id : String}

/-- A project owns the ids of its calls. -/
theorem owns_iff :
    store.owns project id = true ↔
      ∃ call ∈ store.calls, call.id = id ∧ call.projectId = project := by
  simp [owns]

/-- Who owns an id is a matter of the calls alone. -/
theorem owns_congr {other : Store} (h : other.calls = store.calls) :
    other.owns project id = store.owns project id := by
  rw [owns, owns, h]

namespace WellFormed

/-- An id belongs to one project. -/
theorem owner_unique (h : store.WellFormed) {other : String}
    (howns : store.owns project id = true) (hother : store.owns other id = true) :
    other = project := by
  obtain ⟨call, hmem, hid, rfl⟩ := owns_iff.mp howns
  obtain ⟨call', hmem', hid', rfl⟩ := owns_iff.mp hother
  have hsame := List.inj_on_of_nodup_map h.callIds hmem' hmem (hid'.trans hid.symm)
  rw [hsame]

/-- The project of a call owns its id, and no other project does. -/
theorem owns_call_iff (h : store.WellFormed) {call : LoggedCall} (hmem : call ∈ store.calls) :
    store.owns project call.id = true ↔ call.projectId = project := by
  have howner : store.owns call.projectId call.id = true := owns_iff.mpr ⟨call, hmem, rfl, rfl⟩
  refine ⟨fun howns => h.owner_unique howns howner, ?_⟩
  rintro rfl
  exact howner

/-- The project of a tag owns the call of the tag, and no other project does. -/
theorem owns_tag_iff (h : store.WellFormed) {tag : CallTag} (hmem : tag ∈ store.tags) :
    store.owns project tag.callId = true ↔ tag.projectId = project := by
  obtain ⟨call, hcall, hid, hproject⟩ := h.tagCall tag hmem
  rw [← hid, ← hproject, h.owns_call_iff hcall]

/-- A tag of a call has a project exactly if the project owns the call. -/
theorem beq_projectId (h : store.WellFormed) {tag : CallTag} (hmem : tag ∈ store.tags)
    {name : String} (hfor : tag.isFor id name = true) :
    (tag.projectId == project) = store.owns project id := by
  have hcall : tag.callId = id := congrArg Prod.fst (CallTag.isFor_iff.mp hfor)
  rw [Bool.eq_iff_iff, beq_iff_eq, ← hcall, h.owns_tag_iff hmem]

/-- **The part of a project is well formed.** -/
theorem ofProject (h : store.WellFormed) (project : String) :
    (store.ofProject project).WellFormed where
  callIds := h.callIds.sublist (List.filter_sublist.map _)
  entryIds := List.nodup_nil
  responseCall := by
    intro response hresponse
    obtain ⟨call, hcall, hid, hproject⟩ := owns_iff.mp (List.mem_filter.mp hresponse).2
    exact ⟨call, List.mem_filter.mpr ⟨hcall, beq_iff_eq.mpr hproject⟩, hid⟩
  responseKeys := h.responseKeys.sublist (List.filter_sublist.map _)
  responseId := fun response hresponse => h.responseId response (List.mem_filter.mp hresponse).1
  tagCall := by
    intro tag htag
    obtain ⟨hmem, hproject⟩ := List.mem_filter.mp htag
    obtain ⟨call, hcall, hkeys⟩ := h.tagCall tag hmem
    refine ⟨call, List.mem_filter.mpr ⟨hcall, ?_⟩, hkeys⟩
    rw [hkeys.2]
    exact hproject
  tagKeys := h.tagKeys.sublist (List.filter_sublist.map _)

end WellFormed

/-! ### Looking rows up -/

/-- A call of a project is found in its part. -/
theorem WellFormed.call?_ofProject (h : store.WellFormed) (howns : store.owns project id = true) :
    (store.ofProject project).call? id = store.call? id := by
  refine find?_filter_of_imp fun call hmem hid => ?_
  rw [beq_iff_eq] at hid ⊢
  exact (h.owns_call_iff hmem).mp (hid ▸ howns)

/-- The response to a call of a project is found in its part. -/
theorem response?_ofProject (howns : store.owns project id = true) :
    (store.ofProject project).response? id = store.response? id := by
  refine find?_filter_of_imp fun response _ hid => ?_
  rw [beq_iff_eq.mp hid]
  exact howns

/-- The tags of a call of a project are found in its part. -/
theorem WellFormed.tag?_ofProject (h : store.WellFormed) (howns : store.owns project id = true)
    (name : String) : (store.ofProject project).tag? id name = store.tag? id name := by
  refine find?_filter_of_imp fun tag hmem hfor => ?_
  exact (h.beq_projectId hmem hfor).trans howns

/-- The tag names of a project are those of its part. -/
theorem tagNames_ofProject (store : Store) (project : String) :
    (store.ofProject project).tagNames project = store.tagNames project := by
  simp only [tagNames, ofProject, List.filter_filter, Bool.and_self]

end Store

/-! ### Changes about one call -/

/-- Putting a tag among others, and keeping some of them after that, is putting it among those
that are kept, or leaving these alone: the tag of which it takes the place is kept if it is. -/
theorem filter_putTag {keep : CallTag → Bool} {tag : CallTag} {tags : List CallTag}
    (hvalue : ∀ other value, keep { other with value := value } = keep other)
    (hsame : ∀ other ∈ tags, other.isFor tag.callId tag.name = true → keep other = keep tag) :
    (putTag tag tags).filter keep =
      if keep tag = true then putTag tag (tags.filter keep) else tags.filter keep := by
  induction tags with
  | nil => cases htag : keep tag <;> simp [putTag, htag]
  | cons other rest ih =>
    have hrest := ih fun later hmem => hsame later (List.mem_cons_of_mem _ hmem)
    cases hfor : other.isFor tag.callId tag.name with
    | true =>
      have hkeep := hsame other List.mem_cons_self hfor
      cases htag : keep tag <;> simp [putTag, hfor, hkeep, hvalue, htag]
    | false =>
      cases htag : keep tag <;> cases hkeep : keep other <;>
        simp [putTag, hfor, hkeep, hrest, htag]

namespace Store

/-- A change of stores is **local to a call** if it keeps the calls and the invariant, does to
the part of the project that owns the call what it does to the whole, and nothing to the parts
of other projects. -/
structure LocalTo (id : String) (change : Store → Store) : Prop where
  calls (store : Store) : (change store).calls = store.calls
  wellFormed {store : Store} : store.WellFormed → (change store).WellFormed
  own {store : Store} {project : String} : store.WellFormed → store.owns project id = true →
    (change store).ofProject project = change (store.ofProject project)
  foreign {store : Store} {project : String} : store.WellFormed →
    store.owns project id = false → (change store).ofProject project = store.ofProject project

namespace LocalTo

variable {id : String}

/-- Setting a tag of a call is local to it. -/
theorem setTag (id name : String) (value : Option String) :
    LocalTo id fun store => (store.setTag id name value).1 where
  calls store := by
    simp only [Store.setTag]
    split <;> rfl
  wellFormed h := h.setTag id name value
  own := by
    intro store project h howns
    have hpart := h.call?_ofProject howns
    cases hcall : store.call? id with
    | none =>
      obtain ⟨call, hmem, hid, -⟩ := owns_iff.mp howns
      exact absurd hid (call?_eq_none_iff.mp hcall call hmem)
    | some call =>
      obtain ⟨hmem, rfl⟩ := call?_eq_some hcall
      have hproject := (h.owns_call_iff hmem).mp howns
      simp only [Store.setTag, hpart, hcall]
      refine congrArg (fun tags => { store.ofProject project with tags := tags }) ?_
      have hkeep : (call.projectId == project) = true := beq_iff_eq.mpr hproject
      rw [filter_putTag (fun _ _ => rfl) fun other hother hfor =>
        (h.beq_projectId hother hfor).trans (howns.trans hkeep.symm), if_pos hkeep]
      rfl
  foreign := by
    intro store project h hforeign
    cases hcall : store.call? id with
    | none => simp only [Store.setTag, hcall]
    | some call =>
      obtain ⟨hmem, rfl⟩ := call?_eq_some hcall
      have hproject : (call.projectId == project) = false := by
        rw [beq_eq_false_iff_ne, ne_eq, ← h.owns_call_iff hmem, hforeign]
        exact Bool.false_ne_true
      simp only [Store.setTag, hcall]
      refine congrArg (fun tags => { store.ofProject project with tags := tags }) ?_
      rw [filter_putTag (fun _ _ => rfl) fun other hother hfor =>
        (h.beq_projectId hother hfor).trans (hforeign.trans hproject.symm), hproject,
        if_neg Bool.false_ne_true]

/-- Removing a tag of a call is local to it. -/
theorem removeTag (id name : String) : LocalTo id fun store => (store.removeTag id name).1 where
  calls _ := rfl
  wellFormed h := h.removeTag id name
  own := by
    intro store project _ _
    refine congrArg (fun tags => { store.ofProject project with tags := tags }) ?_
    simp only [Store.removeTag, Store.ofProject, List.filter_filter]
    exact List.filter_congr fun tag _ => Bool.and_comm _ _
  foreign := by
    intro store project h hforeign
    refine congrArg (fun tags => { store.ofProject project with tags := tags }) ?_
    simp only [Store.removeTag, List.filter_filter]
    refine List.filter_congr fun tag hmem => ?_
    cases hfor : tag.isFor id name with
    | false => exact Bool.and_true _
    | true =>
      rw [h.beq_projectId hmem hfor, hforeign]
      rfl

/-- An assignment to a call is local to it. -/
theorem assignTag (id : String) (assignment : String × Option String) :
    LocalTo id fun store => store.assignTag id assignment := by
  obtain ⟨name, value⟩ := assignment
  cases value with
  | some value => exact setTag id name (some value)
  | none => exact removeTag id name

/-- Changes that are local to a call are so together. -/
theorem foldl {α : Type} {changes : List α} {change : Store → α → Store}
    (h : ∀ step ∈ changes, LocalTo id fun store => change store step) :
    LocalTo id fun store => changes.foldl change store := by
  induction changes with
  | nil => exact ⟨fun _ => rfl, fun hstore => hstore, fun _ _ => rfl, fun _ _ => rfl⟩
  | cons step rest ih =>
    have hfirst := h step List.mem_cons_self
    have hrest := ih fun later hmem => h later (List.mem_cons_of_mem _ hmem)
    refine ⟨fun store => (hrest.calls _).trans (hfirst.calls store),
      fun hstore => hrest.wellFormed (hfirst.wellFormed hstore), ?_, ?_⟩
    · intro store project hstore howns
      have howns' := (owns_congr (hfirst.calls store)).trans howns
      rw [List.foldl_cons, List.foldl_cons, hrest.own (hfirst.wellFormed hstore) howns',
        hfirst.own hstore howns]
    · intro store project hstore hforeign
      have hforeign' := (owns_congr (hfirst.calls store)).trans hforeign
      rw [List.foldl_cons, hrest.foreign (hfirst.wellFormed hstore) hforeign',
        hfirst.foreign hstore hforeign]

/-- Setting several tags of a call is local to it. -/
theorem setTags (id : String) (tags : List (String × Option String)) :
    LocalTo id fun store => store.setTags id tags :=
  foldl fun tag _ => setTag id tag.1 tag.2

/-- Several assignments to a call are local to it. -/
theorem assignTags (id : String) (assignments : List (String × Option String)) :
    LocalTo id fun store => store.assignTags assignments id :=
  foldl fun assignment _ => assignTag id assignment

end LocalTo

variable {store : Store} {project : String}

/-- Assignments to calls of a project are made in its part. -/
theorem WellFormed.ofProject_assignAll (h : store.WellFormed)
    (assignments : List (String × Option String)) {ids : List String}
    (hown : ∀ id ∈ ids, store.owns project id = true) :
    (ids.foldl (fun store id => store.assignTags assignments id) store).ofProject project =
      ids.foldl (fun store id => store.assignTags assignments id) (store.ofProject project) := by
  induction ids generalizing store with
  | nil => rfl
  | cons id rest ih =>
    have hlocal := LocalTo.assignTags id assignments
    rw [List.foldl_cons, List.foldl_cons, ← hlocal.own h (hown id List.mem_cons_self)]
    refine ih (hlocal.wellFormed h) fun later hmem => ?_
    rw [owns_congr (hlocal.calls store)]
    exact hown later (List.mem_cons_of_mem _ hmem)

/-- Assignments to calls of other projects leave the part of a project as it is. -/
theorem WellFormed.ofProject_assignAll_of_foreign (h : store.WellFormed)
    (assignments : List (String × Option String)) {ids : List String}
    (hforeign : ∀ id ∈ ids, store.owns project id = false) :
    (ids.foldl (fun store id => store.assignTags assignments id) store).ofProject project =
      store.ofProject project := by
  induction ids generalizing store with
  | nil => rfl
  | cons id rest ih =>
    have hlocal := LocalTo.assignTags id assignments
    rw [List.foldl_cons, ← hlocal.foreign h (hforeign id List.mem_cons_self)]
    refine ih (hlocal.wellFormed h) fun later hmem => ?_
    rw [owns_congr (hlocal.calls store)]
    exact hforeign later (List.mem_cons_of_mem _ hmem)

/-- Assignments keep the calls. -/
theorem calls_assignAll (assignments : List (String × Option String)) (ids : List String)
    (store : Store) :
    (ids.foldl (fun store id => store.assignTags assignments id) store).calls = store.calls := by
  induction ids generalizing store with
  | nil => rfl
  | cons id rest ih =>
    rw [List.foldl_cons, ih]
    exact (LocalTo.assignTags id assignments).calls store

/-! ### Recording a call -/

/-- A call that is added belongs to its project. -/
theorem owns_addCall (store : Store) (call : LoggedCall) (response : Option ModelResponse)
    (project id : String) :
    (store.addCall call response).owns project id =
      (store.owns project id || (call.id == id && call.projectId == project)) := by
  simp [owns, addCall]

/-- Adding a call of a project adds it to the part of the project. -/
theorem WellFormed.ofProject_addCall (h : store.WellFormed) {call : LoggedCall}
    {response : Option ModelResponse} (hproject : call.projectId = project)
    (hnew : ∀ other ∈ store.calls, other.id ≠ call.id)
    (hresponse : ∀ r ∈ response, r.callId = call.id) :
    (store.addCall call response).ofProject project =
      (store.ofProject project).addCall call response := by
  have hcalls : (store.calls ++ [call]).filter (fun other => other.projectId == project) =
      (store.calls.filter fun other => other.projectId == project) ++ [call] := by
    simp [List.filter_append, hproject]
  have hresponses : (store.responses ++ response.toList).filter
      (fun r => (store.addCall call response).owns project r.callId) =
        (store.responses.filter fun r => store.owns project r.callId) ++ response.toList := by
    rw [List.filter_append]
    congr 1
    · refine List.filter_congr fun r hr => ?_
      obtain ⟨owner, howner, hid⟩ := h.responseCall r hr
      have hne : (call.id == r.callId) = false :=
        beq_eq_false_iff_ne.mpr fun heq => hnew owner howner (hid.trans heq.symm)
      rw [owns_addCall, hne, Bool.false_and, Bool.or_false]
    · refine List.filter_eq_self.mpr fun r hr => ?_
      rw [owns_addCall, hresponse r (Option.mem_toList.mp hr), hproject]
      simp
  exact congrArg₂ (fun calls responses =>
    { store.ofProject project with calls := calls, responses := responses }) hcalls hresponses

/-- Adding a call of another project leaves the part of a project as it is. -/
theorem ofProject_addCall_of_ne {call : LoggedCall} {response : Option ModelResponse}
    (hproject : call.projectId ≠ project) (hnew : ∀ other ∈ store.calls, other.id ≠ call.id)
    (hresponse : ∀ r ∈ response, r.callId = call.id) :
    (store.addCall call response).ofProject project = store.ofProject project := by
  have hforeign : (call.projectId == project) = false := beq_eq_false_iff_ne.mpr hproject
  have howns (id : String) : (store.addCall call response).owns project id =
      store.owns project id := by
    rw [owns_addCall, hforeign, Bool.and_false, Bool.or_false]
  have hcalls : (store.calls ++ [call]).filter (fun other => other.projectId == project) =
      store.calls.filter fun other => other.projectId == project := by
    simp [List.filter_append, hforeign]
  have hresponses : (store.responses ++ response.toList).filter
      (fun r => (store.addCall call response).owns project r.callId) =
        store.responses.filter fun r => store.owns project r.callId := by
    have hnone : response.toList.filter (fun r => store.owns project r.callId) = [] := by
      refine List.filter_eq_nil_iff.mpr fun r hr hown => ?_
      rw [hresponse r (Option.mem_toList.mp hr)] at hown
      obtain ⟨other, hother, hid, -⟩ := owns_iff.mp hown
      exact hnew other hother hid
    simp only [howns, List.filter_append, hnone, List.append_nil]
  exact congrArg₂ (fun calls responses =>
    { store.ofProject project with calls := calls, responses := responses }) hcalls hresponses

/-- **Recording a call of a project** has the same outcome on the part of the project, unless
the id is taken by another project. -/
theorem WellFormed.ofProject_record (h : store.WellFormed) {call : CallReport}
    (hown : ∀ other ∈ store.calls, other.id = call.id → other.projectId = project) :
    (store.ofProject project).record project call =
      (store.record project call).map fun next => next.ofProject project := by
  cases hcall : store.call? call.id with
  | some taken =>
    obtain ⟨hmem, hid⟩ := call?_eq_some hcall
    have howns : store.owns project call.id = true :=
      owns_iff.mpr ⟨taken, hmem, hid, hown taken hmem hid⟩
    simp only [Store.record, h.call?_ofProject howns, hcall]
    rfl
  | none =>
    have hnew := call?_eq_none_iff.mp hcall
    have hpart : (store.ofProject project).call? call.id = none :=
      call?_eq_none_iff.mpr fun other hother => hnew other (List.mem_filter.mp hother).1
    rw [record_eq_ok_iff.mpr ⟨hcall, rfl⟩, record_eq_ok_iff.mpr ⟨hpart, rfl⟩]
    have hkeys := call.responseRow_keys project
    have hadd := h.addCall (call.toRow project) hnew call.responseRow hkeys
    have howns : (store.addCall (call.toRow project) call.responseRow).owns project call.id =
        true := by
      simp [owns_addCall, CallReport.toRow]
    have htags := (LocalTo.setTags call.id call.tags.entries).own hadd howns
    have hpartAdd : (store.addCall (call.toRow project) call.responseRow).ofProject project =
        (store.ofProject project).addCall (call.toRow project) call.responseRow :=
      h.ofProject_addCall rfl hnew fun r hr => (hkeys r hr).1
    rw [hpartAdd] at htags
    exact congrArg Except.ok htags.symm

/-- Recording a call of another project leaves the part of a project as it is. -/
theorem WellFormed.ofProject_record_of_ne (h : store.WellFormed) {other : String}
    (hne : other ≠ project) {call : CallReport} {next : Store}
    (hnext : store.record other call = .ok next) :
    next.ofProject project = store.ofProject project := by
  obtain ⟨hcall, rfl⟩ := record_eq_ok_iff.mp hnext
  have hnew := call?_eq_none_iff.mp hcall
  have hkeys := call.responseRow_keys other
  have hadd := h.addCall (call.toRow other) hnew call.responseRow hkeys
  have hforeign : (store.addCall (call.toRow other) call.responseRow).owns project call.id =
      false := by
    have hold : store.owns project call.id = false := by
      refine Bool.eq_false_iff.mpr fun howns => ?_
      obtain ⟨taken, hmem, hid, -⟩ := owns_iff.mp howns
      exact hnew taken hmem hid
    simp [owns_addCall, hold, CallReport.toRow, hne]
  rw [(LocalTo.setTags call.id call.tags.entries).foreign hadd hforeign]
  exact ofProject_addCall_of_ne hne hnew fun r hr => (hkeys r hr).1

end Store

end LogFilter
