import LogFilter.Proofs.ReadValues
import LogFilter.Proofs.RecordFields
import LogFilter.Wire.Filter

/-!
# Filters and Selections on the Wire

A filter is given as an object or as an array of its fields, and so is a selection. Whatever the
form, the same value is meant, and it is the one that was encoded: the order of members does not
count, nor do members that are no fields, nor in a set of ids the order of the ids and how often
they come. A field that may be left out is read as what stands for it: null for the value of a
filter, an empty array for a set of ids. Everything else is an error.

Forms are documents here, so that they cover all texts that have one. A text that is written for a
value has the document of this value.

## Main definitions

* `Filter.shape`, `Selection.shape`: the shapes of filters and selections.
* `ReadsBack`: whether a decoder reads back what is encoded.
* `WireForms`: how filters and selections are given on the wire.

## Main results

* `Filter.makeUp`, `Selection.makeUp`: the fields of a filter and of a selection make them up.
* `ReadsBack.of_oneForm`: what is encoded is read back from all of its texts.
* `wireForms`: filters and selections have one value in every form.
-/

namespace LogFilter

open Json

namespace Filter

/-- The shape of a filter: only its value may be left out, and it may be null. -/
def shape : RecordShape :=
  ⟨["field", "comparator", "value"], [("value", .null)], ["value"]⟩

/-- The fields of a filter set its places. -/
theorem fields_eq : fields =
    [.setting "field" decodeText fun text part => { part with field := some text },
      .setting "comparator" decodeText fun text part => { part with comparator := some text },
      .setting "value" (decodeOptional decodeText) fun value part => { part with value }] :=
  rfl

/-- **The fields of a filter make up a filter.** -/
theorem makeUp : MakeUp shape fields {} Part.finish where
  names := by decide
  independent := by
    rw [fields_eq]
    refine .cons (List.forall_mem_cons.mpr ⟨?_, List.forall_mem_singleton.mpr ?_⟩)
      (.cons (List.forall_mem_singleton.mpr ?_) (List.pairwise_singleton _ _))
    all_goals exact RecordField.setting_independent fun _ _ _ => rfl
  named := rfl
  default := by
    rintro _ _ (_ | ⟨_, ⟨⟩⟩)
    exact ⟨_, List.mem_cons_of_mem _ (List.mem_cons_of_mem _ List.mem_cons_self), rfl, rfl⟩
  required := by
    rintro name (_ | ⟨_, _ | ⟨_, _ | ⟨_, ⟨⟩⟩⟩⟩) hrequired
    · refine ⟨fun part => part.field = none, rfl, fun part hpart => ?_,
        List.forall_mem_cons.mpr ⟨fun hne => absurd rfl hne, List.forall_mem_cons.mpr
          ⟨fun _ => ?_, List.forall_mem_singleton.mpr fun _ => ?_⟩⟩⟩
      · rw [Part.finish, hpart]
        rfl
      all_goals exact RecordField.setting_keeps fun _ _ hpart => hpart
    · refine ⟨fun part => part.comparator = none, rfl, fun part hpart => ?_,
        List.forall_mem_cons.mpr ⟨fun _ => ?_, List.forall_mem_cons.mpr
          ⟨fun hne => absurd rfl hne, List.forall_mem_singleton.mpr fun _ => ?_⟩⟩⟩
      · rw [Part.finish, hpart]
        cases part.field <;> rfl
      all_goals exact RecordField.setting_keeps fun _ _ hpart => hpart
    · exact absurd List.mem_cons_self hrequired
  notNull := by
    refine List.forall_mem_cons.mpr ⟨fun _ => ?_, List.forall_mem_cons.mpr
      ⟨fun _ => ?_, List.forall_mem_singleton.mpr fun hnull => absurd List.mem_cons_self hnull⟩⟩
    all_goals exact RecordField.setting_refuses rfl

end Filter

namespace Selection

/-- The shape of a selection: its sets may be left out, and nothing may be null. -/
def shape : RecordShape :=
  ⟨["defaultToSelected", "selectedIds", "deselectedIds"],
    [("selectedIds", .array [] none), ("deselectedIds", .array [] none)], []⟩

/-- The fields of a selection set its places. -/
theorem fields_eq : fields =
    [.setting "defaultToSelected" decodeBoolean fun flag part =>
        { part with defaultToSelected := some flag },
      .setting "selectedIds" decodeIds fun ids part => { part with selectedIds := ids },
      .setting "deselectedIds" decodeIds fun ids part => { part with deselectedIds := ids }] :=
  rfl

/-- A set without ids is empty. -/
theorem decodeIds_nil : decodeIds (.array [] none) = .ok .empty :=
  congrArg Except.ok (NameSet.ofList_toList .empty)

/-- **The fields of a selection make up a selection.** -/
theorem makeUp : MakeUp shape fields {} Part.finish where
  names := by decide
  independent := by
    rw [fields_eq]
    refine .cons (List.forall_mem_cons.mpr ⟨?_, List.forall_mem_singleton.mpr ?_⟩)
      (.cons (List.forall_mem_singleton.mpr ?_) (List.pairwise_singleton _ _))
    all_goals exact RecordField.setting_independent fun _ _ _ => rfl
  named := rfl
  default := by
    rintro _ _ (_ | ⟨_, _ | ⟨_, ⟨⟩⟩⟩)
    · exact ⟨_, List.mem_cons_of_mem _ List.mem_cons_self, rfl,
        RecordField.read_setting_eq_ok_iff.mpr ⟨_, decodeIds_nil, rfl⟩⟩
    · exact ⟨_, List.mem_cons_of_mem _ (List.mem_cons_of_mem _ List.mem_cons_self), rfl,
        RecordField.read_setting_eq_ok_iff.mpr ⟨_, decodeIds_nil, rfl⟩⟩
  required := by
    rintro name (_ | ⟨_, _ | ⟨_, _ | ⟨_, ⟨⟩⟩⟩⟩) hrequired
    · refine ⟨fun part => part.defaultToSelected = none, rfl, fun part hpart => ?_,
        List.forall_mem_cons.mpr ⟨fun hne => absurd rfl hne, List.forall_mem_cons.mpr
          ⟨fun _ => ?_, List.forall_mem_singleton.mpr fun _ => ?_⟩⟩⟩
      · rw [Part.finish, hpart]
        rfl
      all_goals exact RecordField.setting_keeps fun _ _ hpart => hpart
    · exact absurd List.mem_cons_self hrequired
    · exact absurd (List.mem_cons_of_mem _ List.mem_cons_self) hrequired
  notNull := by
    refine List.forall_mem_cons.mpr ⟨fun _ => ?_, List.forall_mem_cons.mpr
      ⟨fun _ => ?_, List.forall_mem_singleton.mpr fun _ => ?_⟩⟩
    all_goals exact RecordField.setting_refuses rfl

end Selection

/-! ### Encoding -/

/-- Whether a decoder **reads back what is encoded**, however it is written. -/
structure ReadsBack {α : Type} (encode : α → Json) (decode : Decoder α) : Prop where
  /-- The encoding itself is read back. -/
  value : ∀ record, readValue decode (encode record) = .ok record
  /-- So is its compact text. -/
  compact : ∀ record, readWhole decode (encode record).compact = .ok record
  /-- So is any other text of it, and of its members in any other order. -/
  written : ∀ {record : α} {members others : List (String × Json)} {text : String},
    encode record = .object members → members.Perm others → IsText (.object others) text →
      readWhole decode text = .ok record

/-- The documents of members come in the order of the members. -/
theorem Json.Document.ofMembers_eq_map (members : List (String × Json)) :
    ofMembers members = members.map fun entry => member entry.1 (ofJson entry.2) := by
  induction members with
  | nil => rfl
  | cons entry rest ih => rw [ofMembers, List.map_cons, ih, member]

/-- A decoder that gives one value for every form of a record reads back what is encoded, if it
does so for the encoding itself. -/
theorem ReadsBack.of_oneForm {α : Type} {shape : RecordShape} {encode : α → Json}
    {decode : Decoder α} (h : OneForm shape decode)
    (hvalue : ∀ record, readValue decode (encode record) = .ok record)
    (hformed : ∀ record, (encode record).Formed Number.Whole) : ReadsBack encode decode where
  value := hvalue
  compact := fun record => by rw [readWhole_of_isText (isText_compact (hformed record)), hvalue]
  written := by
    intro record members others text hencode hperm htext
    have hdocuments : (Document.ofMembers members).Perm (Document.ofMembers others) := by
      rw [Document.ofMembers_eq_map, Document.ofMembers_eq_map]
      exact hperm.map _
    have hread := hvalue record
    rw [hencode, readValue, Document.ofJson, h.order hdocuments] at hread
    rw [readWhole_of_isText htext, readValue, Document.ofJson, hread]

/-- An object is formed if its names increase strictly and its values are formed. -/
theorem Json.Formed.of_names {allowed : Number → Prop} {members : List (String × Json)}
    (hnames : (members.map Prod.fst).Pairwise (· < ·))
    (hvalues : ∀ entry ∈ members, entry.2.Formed allowed) : (Json.object members).Formed allowed :=
  .object (List.pairwise_map.mp hnames) hvalues

/-- A value that has been read can be skipped, however deeply it is nested. -/
theorem Json.skip_ofJson (value : Json) : skip (Document.ofJson value) = .ok () := by
  cases value <;> rfl

namespace Filter

/-- An encoded filter is read back. -/
theorem readValue_encode (filter : Filter) : readValue decode filter.encode = .ok filter := by
  obtain ⟨field, comparator, value⟩ := filter
  cases value <;> rfl

/-- Its members come in the order of their names. -/
theorem formed_encode (filter : Filter) : filter.encode.Formed Number.Whole := by
  have hnames : ["comparator", "field", "value"].Pairwise (· < ·) := by decide
  refine .of_names hnames (List.forall_mem_cons.mpr ⟨.string _, List.forall_mem_cons.mpr
    ⟨.string _, List.forall_mem_singleton.mpr ?_⟩⟩)
  cases filter.value with
  | none => exact .null
  | some value => exact .string value

end Filter

namespace Selection

/-- Some ids in an array. -/
def idsOf (ids : List String) : Json :=
  .array (ids.map .string)

/-- Strings are read one by one. -/
theorem mapM_decodeText (ids : List String) :
    (Document.ofItems (ids.map .string)).mapM decodeText = .ok ids := by
  induction ids with
  | nil => rfl
  | cons id rest ih =>
    rw [List.map_cons, Document.ofItems, List.mapM_cons, ih]
    rfl

/-- **Ids in an array are read as their set.** -/
theorem decodeIds_idsOf (ids : List String) :
    decodeIds (Document.ofJson (idsOf ids)) = .ok (.ofList ids) := by
  rw [decodeIds, idsOf, Document.ofJson, decodeList, mapM_decodeText]
  rfl

/-- An encoded set is read back. -/
theorem decodeIds_encodeIds (ids : NameSet) :
    decodeIds (Document.ofJson (encodeIds ids)) = .ok ids := by
  have hread := decodeIds_idsOf ids.toList
  rwa [NameSet.ofList_toList] at hread

/-- An encoded selection is read back. -/
theorem readValue_encode (selection : Selection) :
    readValue decode selection.encode = .ok selection := by
  have hselected := decodeIds_encodeIds selection.selectedIds
  have hdeselected := decodeIds_encodeIds selection.deselectedIds
  simp [readValue, decode, encode, Document.ofJson, Document.ofMembers, decodeRecord, readMembers,
    memberName, fields, hselected, hdeselected, decodeBoolean, closing, decodeRecord.complete,
    Part.finish, bind, Except.bind, pure, Except.pure]

/-- Its members come in the order of their names. -/
theorem formed_encode (selection : Selection) : selection.encode.Formed Number.Whole := by
  have hids (ids : NameSet) : (encodeIds ids).Formed Number.Whole := by
    refine .array fun item hitem => ?_
    obtain ⟨id, -, rfl⟩ := List.mem_map.mp hitem
    exact .string id
  have hnames : ["defaultToSelected", "deselectedIds", "selectedIds"].Pairwise (· < ·) := by decide
  exact .of_names hnames (List.forall_mem_cons.mpr ⟨.boolean _, List.forall_mem_cons.mpr
    ⟨hids _, List.forall_mem_singleton.mpr (hids _)⟩⟩)

end Selection

/-! ### One value for every form -/

/-- How **filters and selections are given** on the wire. -/
structure WireForms : Prop where
  /-- A filter that is encoded is read back. -/
  filterBack : ReadsBack Filter.encode Filter.decode
  /-- So is a selection. -/
  selectionBack : ReadsBack Selection.encode Selection.decode
  /-- Every form of a filter gives one filter. -/
  filterForms : OneForm Filter.shape Filter.decode
  /-- Every form of a selection gives one selection. -/
  selectionForms : OneForm Selection.shape Selection.decode
  /-- A member that is no field may have any value whatever. -/
  skipped : ∀ value, skip (Document.ofJson value) = .ok ()
  /-- The order of ids and their repetitions make no difference. -/
  ids : ∀ {name : String} {ids others : List String}, name ∈ ["selectedIds", "deselectedIds"] →
    (∀ id, id ∈ ids ↔ id ∈ others) → ∀ before after fault,
      Selection.decode (.object
          (before ++ member name (Document.ofJson (Selection.idsOf ids)) :: after) fault) =
        Selection.decode (.object
          (before ++ member name (Document.ofJson (Selection.idsOf others)) :: after) fault)
  /-- An array of the first fields only gives a filter without a value. -/
  shortFilter : ∀ field comparator,
    readValue Filter.decode (.array [.string field, .string comparator]) =
      .ok ⟨field, comparator, none⟩
  /-- Such an array gives a selection without ids. -/
  shortSelection : ∀ flag, readValue Selection.decode (.array [.boolean flag]) =
    .ok ⟨flag, .empty, .empty⟩
  /-- With the selected ids it gives a selection without deselected ones. -/
  longerSelection : ∀ flag ids,
    readValue Selection.decode (.array [.boolean flag, Selection.idsOf ids]) =
      .ok ⟨flag, .ofList ids, .empty⟩

/-- **Filters and selections have one value in every form in which they are given**, and what is no
form of them is an error. -/
theorem wireForms : WireForms where
  filterBack := .of_oneForm Filter.makeUp.oneForm Filter.readValue_encode Filter.formed_encode
  selectionBack :=
    .of_oneForm Selection.makeUp.oneForm Selection.readValue_encode Selection.formed_encode
  filterForms := Filter.makeUp.oneForm
  selectionForms := Selection.makeUp.oneForm
  skipped := skip_ofJson
  ids := by
    intro name ids others hname hsame before after fault
    have hread : Selection.decodeIds (Document.ofJson (Selection.idsOf ids)) =
        Selection.decodeIds (Document.ofJson (Selection.idsOf others)) := by
      rw [Selection.decodeIds_idsOf, Selection.decodeIds_idsOf, NameSet.ofList_eq_iff.mpr hsame]
    obtain ⟨field, hfield, hsets⟩ : ∃ field, fieldOf? Selection.fields name = some field ∧
        ∃ set, field = .setting name Selection.decodeIds set := by
      rcases hname with _ | ⟨_, _ | ⟨_, ⟨⟩⟩⟩ <;> exact ⟨_, rfl, _, rfl⟩
    obtain ⟨set, rfl⟩ := hsets
    exact decodeRecord_congr hfield (RecordField.read_setting_congr hread name set) before after
  shortFilter := fun _ _ => rfl
  shortSelection := fun _ => rfl
  longerSelection := by
    intro flag ids
    have hids := Selection.decodeIds_idsOf ids
    simp [readValue, Selection.decode, Document.ofJson, Document.ofItems, decodeRecord, readItems,
      Selection.fields, hids, decodeBoolean, closing, decodeRecord.complete, Selection.Part.finish,
      bind, Except.bind, pure, Except.pure]

end LogFilter
