import LogFilter.Json.Decode
import LogFilter.Proofs.Outcomes
import Mathlib.Data.List.Nodup
import Mathlib.Data.List.Pairwise
import Mathlib.Data.List.Perm.Basic

/-!
# Records in Any Form

A record is read from the members of an object one after the other, and each of them goes into its
place. So what is read depends only on which fields are given and with what values: not on their
order, and not on members that are no fields. The items of an array are the fields in their order,
so an array is read as the object that gives these fields.

This needs that fields are read independently of each other, as they are if each has a place of its
own. About the errors of records that cannot be read nothing of this kind holds: which of two
problems is reported does depend on which comes first.

## Main definitions

* `given`: the fields that some members give, with their values.
* `readGiven`: the values of fields, read one after another.
* `RecordField.setting`, `RecordField.Independent`: fields that are read by themselves.
* `RecordShape`, `OneForm`: the shape of a record, and a decoder that gives one value for every form
  of it.
* `MakeUp`: fields that make up a record of a shape.

## Main results

* `readMembers_eq_ok_iff`: members are read exactly if each can be passed, no field is given twice,
  and the values of the fields are read.
* `readGiven_perm`: independent fields are read in any order.
* `readItems_eq_ok_iff`: items are read as the fields in their order.
* `MakeUp.oneForm`: fields that make up a record give one value for every form of it.
* `decodeRecord_congr`: values that are read alike make no difference.
-/

namespace LogFilter.Json

variable {σ : Type} {fields : List (RecordField σ)} {members others : List (Document × Document)}
  {part next result : σ}

/-! ### Fields that are given -/

/-- The field of a name. -/
def fieldOf? (fields : List (RecordField σ)) (name : String) : Option (RecordField σ) :=
  fields.find? fun field => field.name == name

/-- What **a member gives**: a field and its value, if it has the name of a field. -/
def given? (fields : List (RecordField σ)) (member : Document × Document) :
    Option (RecordField σ × Document) :=
  match memberName member.1 with
  | .ok name => (fieldOf? fields name).map fun field => (field, member.2)
  | .error _ => none

/-- The **fields that are given** by some members. -/
def given (fields : List (RecordField σ)) (members : List (Document × Document)) :
    List (RecordField σ × Document) :=
  members.filterMap (given? fields)

/-- Whether a member **can be passed**: it has a name, and if that is the name of no field, then its
value can be skipped. -/
def Passable (fields : List (RecordField σ)) (member : Document × Document) : Prop :=
  ∃ name, memberName member.1 = .ok name ∧
    (fieldOf? fields name = none → skip member.2 = .ok ())

/-- Reads the **values of fields** one after another. -/
def readGiven : List (RecordField σ × Document) → σ → Except ReadError σ
  | [], part => .ok part
  | (field, value) :: rest, part => field.read value part >>= readGiven rest

/-- The field of a name has the name, and is one of the fields. -/
theorem fieldOf?_eq_some {name : String} {field : RecordField σ}
    (h : fieldOf? fields name = some field) : field ∈ fields ∧ field.name = name :=
  ⟨List.mem_of_find?_eq_some h, by simpa using List.find?_some h⟩

/-- There is no field of a name exactly if none has it. -/
theorem fieldOf?_eq_none_iff {name : String} :
    fieldOf? fields name = none ↔ ∀ field ∈ fields, field.name ≠ name := by
  simp [fieldOf?]

/-- What is given is a field. -/
theorem mem_fields_of_mem_given {entry : RecordField σ × Document}
    (h : entry ∈ given fields members) : entry.1 ∈ fields := by
  obtain ⟨member, -, hgiven⟩ := List.mem_filterMap.mp h
  rw [given?] at hgiven
  split at hgiven
  · obtain ⟨field, hfield, rfl⟩ := Option.map_eq_some_iff.mp hgiven
    exact (fieldOf?_eq_some hfield).1
  · cases hgiven

section Members

variable {key value : Document} {name : String} {field : RecordField σ} {seen : List String}

/-- A member without a name is not passed. -/
theorem readMembers_unnamed {e : ReadError} (hname : memberName key = .error e) :
    readMembers fields seen ((key, value) :: members) part = .error e := by
  rw [readMembers, hname]
  rfl

/-- A member that is no field is skipped. -/
theorem readMembers_unknown (hname : memberName key = .ok name)
    (hfield : fieldOf? fields name = none) :
    readMembers fields seen ((key, value) :: members) part =
      skip value >>= fun _ => readMembers fields seen members part := by
  rw [fieldOf?] at hfield
  rw [readMembers, hname]
  simp only [bind, Except.bind, hfield]

/-- A field is read if it has not been seen. -/
theorem readMembers_known (hname : memberName key = .ok name)
    (hfield : fieldOf? fields name = some field) :
    readMembers fields seen ((key, value) :: members) part =
      if name ∈ seen then .error .mismatch
      else field.read value part >>= readMembers fields (name :: seen) members := by
  rw [fieldOf?] at hfield
  rw [readMembers, hname]
  simp only [bind, Except.bind, hfield, List.contains_iff_mem]

/-- A member that is no field gives nothing. -/
theorem given_unknown (hname : memberName key = .ok name) (hfield : fieldOf? fields name = none) :
    given fields ((key, value) :: members) = given fields members :=
  List.filterMap_cons_none (by rw [given?, hname]; simp [hfield])

/-- A field is given with its value. -/
theorem given_known (hname : memberName key = .ok name)
    (hfield : fieldOf? fields name = some field) :
    given fields ((key, value) :: members) = (field, value) :: given fields members :=
  List.filterMap_cons_some (by rw [given?, hname]; simp [hfield])

/-- A member with a name can be passed if its value can be skipped or is that of a field. -/
theorem passable_iff (hname : memberName key = .ok name) :
    Passable fields (key, value) ↔ (fieldOf? fields name = none → skip value = .ok ()) := by
  simp [Passable, hname]

end Members

/-- **Members are read** exactly if each can be passed, no field is given twice, and the values of
the fields are read. -/
theorem readMembers_eq_ok_iff {seen : List String} :
    readMembers fields seen members part = .ok result ↔
      (∀ member ∈ members, Passable fields member) ∧
        ((given fields members).map fun entry => entry.1.name).Nodup ∧
        (∀ entry ∈ given fields members, entry.1.name ∉ seen) ∧
        readGiven (given fields members) part = .ok result := by
  induction members generalizing seen part with
  | nil => simp [readMembers, given, readGiven]
  | cons member rest ih =>
    obtain ⟨key, value⟩ := member
    rw [List.forall_mem_cons]
    cases hname : memberName key with
    | error e =>
      rw [readMembers_unnamed hname]
      refine ⟨nofun, fun ⟨⟨⟨_, hpass, _⟩, _⟩, _⟩ => ?_⟩
      rw [hname] at hpass
      cases hpass
    | ok name =>
      rw [passable_iff hname]
      cases hfield : fieldOf? fields name with
      | none =>
        rw [readMembers_unknown hname hfield, given_unknown hname hfield, bind_eq_ok_iff]
        constructor
        · rintro ⟨_, hskip, hrest⟩
          obtain ⟨hpass, hgiven⟩ := ih.mp hrest
          exact ⟨⟨fun _ => hskip, hpass⟩, hgiven⟩
        · rintro ⟨⟨hskip, hpass⟩, hgiven⟩
          exact ⟨(), hskip rfl, ih.mpr ⟨hpass, hgiven⟩⟩
      | some field =>
        obtain ⟨-, rfl⟩ := fieldOf?_eq_some hfield
        rw [readMembers_known hname hfield, given_known hname hfield, List.map_cons,
          List.nodup_cons, List.forall_mem_cons, readGiven]
        by_cases hseen : field.name ∈ seen
        · rw [if_pos hseen]
          exact ⟨nofun, fun ⟨_, _, ⟨hnew, _⟩, _⟩ => absurd hseen hnew⟩
        · rw [if_neg hseen, bind_eq_ok_iff, bind_eq_ok_iff]
          constructor
          · rintro ⟨next, hread, hrest⟩
            obtain ⟨hpass, hnodup, hnew, hgiven⟩ := ih.mp hrest
            refine ⟨⟨nofun, hpass⟩, ⟨fun hmem => ?_, hnodup⟩, ⟨hseen, fun entry hentry hold => ?_⟩,
              next, hread, hgiven⟩
            · obtain ⟨entry, hentry, hsame⟩ := List.mem_map.mp hmem
              exact hnew entry hentry (hsame ▸ List.mem_cons_self)
            · exact hnew entry hentry (List.mem_cons_of_mem _ hold)
          · rintro ⟨⟨-, hpass⟩, ⟨hfirst, hnodup⟩, ⟨-, hnew⟩, next, hread, hgiven⟩
            refine ⟨next, hread, ih.mpr ⟨hpass, hnodup, fun entry hentry hold => ?_, hgiven⟩⟩
            rcases List.mem_cons.mp hold with hsame | hold
            · exact hfirst (List.mem_map.mpr ⟨entry, hentry, hsame⟩)
            · exact hnew entry hentry hold

/-! ### Fields that are read by themselves -/

/-- A **field that sets a place**: its value is read by itself and put there. -/
def RecordField.setting {β : Type} (name : String) (decode : Decoder β) (set : β → σ → σ) :
    RecordField σ :=
  ⟨name, fun value part => (decode value).map fun b => set b part⟩

/-- Such a field is read exactly if its value is, which is then put into its place. -/
theorem RecordField.read_setting_eq_ok_iff {β : Type} {name : String} {decode : Decoder β}
    {set : β → σ → σ} {value : Document} :
    (setting name decode set).read value part = .ok result ↔
      ∃ b, decode value = .ok b ∧ set b part = result := by
  rw [setting]
  dsimp only
  cases decode value with
  | error e => exact ⟨nofun, fun ⟨_, h, _⟩ => nomatch h⟩
  | ok b => simp [Except.map]

/-- What setting a place keeps, reading the field keeps. -/
theorem RecordField.setting_keeps {P : σ → Prop} {β : Type} {name : String} {decode : Decoder β}
    {set : β → σ → σ} (hset : ∀ b part, P part → P (set b part)) (value : Document)
    (part next : σ) (hpart : P part)
    (hread : (setting name decode set).read value part = .ok next) :
    P next := by
  obtain ⟨b, -, rfl⟩ := read_setting_eq_ok_iff.mp hread
  exact hset b part hpart

/-- A value that is refused is not read. -/
theorem RecordField.setting_refuses {β : Type} {name : String} {decode : Decoder β}
    {set : β → σ → σ} {value : Document} {e : ReadError} (h : decode value = .error e)
    (part next : σ) : (setting name decode set).read value part ≠ .ok next := by
  intro hread
  obtain ⟨_, hvalue, -⟩ := read_setting_eq_ok_iff.mp hread
  rw [h] at hvalue
  cases hvalue

/-- Values of a field that are decoded alike are read alike. -/
theorem RecordField.read_setting_congr {β : Type} {decode : Decoder β} {value other : Document}
    (h : decode value = decode other) (name : String) (set : β → σ → σ) :
    (setting name decode set).read value = (setting name decode set).read other := by
  funext part
  rw [setting]
  dsimp only
  rw [h]

/-- Whether two fields are read **independently** of each other. -/
def RecordField.Independent (field other : RecordField σ) : Prop :=
  ∀ value value' part result,
    field.read value part >>= other.read value' = .ok result ↔
      other.read value' part >>= field.read value = .ok result

instance : Std.Symm (@RecordField.Independent σ) :=
  ⟨fun _ _ h value value' part result => (h value' value part result).symm⟩

/-- **Fields that set different places** are independent. -/
theorem RecordField.setting_independent {β γ : Type} {name name' : String} {decode : Decoder β}
    {decode' : Decoder γ} {set : β → σ → σ} {set' : γ → σ → σ}
    (hplaces : ∀ b c part, set' c (set b part) = set b (set' c part)) :
    (setting name decode set).Independent (setting name' decode' set') := by
  intro value value' part result
  simp only [bind_eq_ok_iff, read_setting_eq_ok_iff]
  constructor
  · rintro ⟨_, ⟨b, hb, rfl⟩, c, hc, rfl⟩
    exact ⟨_, ⟨c, hc, rfl⟩, b, hb, (hplaces b c part).symm⟩
  · rintro ⟨_, ⟨c, hc, rfl⟩, b, hb, rfl⟩
    exact ⟨_, ⟨b, hb, rfl⟩, c, hc, hplaces b c part⟩

/-- Whether the **fields of a record** have distinct names and are read independently. -/
structure Separate (fields : List (RecordField σ)) : Prop where
  names : (fields.map RecordField.name).Nodup
  independent : fields.Pairwise RecordField.Independent

/-- Of the fields of a record two with different names are independent. -/
theorem Separate.independent_of_ne (h : Separate fields) {field other : RecordField σ}
    (hfield : field ∈ fields) (hother : other ∈ fields) (hne : field.name ≠ other.name) :
    field.Independent other :=
  h.independent.forall hfield hother fun hsame => hne (congrArg RecordField.name hsame)

/-- **Independent fields are read in any order.** -/
theorem readGiven_perm (h : Separate fields) {entries entries' : List (RecordField σ × Document)}
    (hperm : entries.Perm entries') (hfields : ∀ entry ∈ entries, entry.1 ∈ fields)
    (hnames : (entries.map fun entry => entry.1.name).Nodup) :
    readGiven entries part = .ok result ↔ readGiven entries' part = .ok result := by
  induction hperm generalizing part with
  | nil => exact Iff.rfl
  | cons entry _ ih =>
    obtain ⟨-, hfields⟩ := List.forall_mem_cons.mp hfields
    obtain ⟨-, hnames⟩ := List.nodup_cons.mp hnames
    rw [readGiven, readGiven, bind_eq_ok_iff, bind_eq_ok_iff]
    exact exists_congr fun next => and_congr_right fun _ => ih hfields hnames
  | swap entry entry' rest =>
    have hdiffer : entry'.1.name ≠ entry.1.name :=
      fun hsame => (List.nodup_cons.mp hnames).1
        (List.mem_map.mpr ⟨entry, List.mem_cons_self, hsame.symm⟩)
    have hswap := h.independent_of_ne (hfields _ List.mem_cons_self)
      (hfields _ (List.mem_cons_of_mem _ List.mem_cons_self)) hdiffer entry'.2 entry.2 part
    simp only [readGiven]
    rw [← bind_assoc, ← bind_assoc, bind_eq_ok_iff, bind_eq_ok_iff]
    exact exists_congr fun next => and_congr_left fun _ => hswap next
  | trans hfirst _ ih ih' =>
    refine (ih hfields hnames).trans (ih' (fun entry hentry => ?_) ?_)
    · exact hfields entry (hfirst.mem_iff.mpr hentry)
    · exact (hfirst.map _).nodup_iff.mp hnames

/-- The values of fields behind others are read after these. -/
theorem readGiven_append (entries entries' : List (RecordField σ × Document)) :
    readGiven (entries ++ entries') part = readGiven entries part >>= readGiven entries' := by
  induction entries generalizing part with
  | nil => rfl
  | cons entry rest ih =>
    rw [List.cons_append, readGiven, readGiven, bind_assoc]
    exact congrArg (entry.1.read entry.2 part >>= ·) (funext fun next => ih)

/-- One field alone is read. -/
theorem readGiven_singleton (field : RecordField σ) (value : Document) (part : σ) :
    readGiven [(field, value)] part = field.read value part := by
  rw [readGiven]
  cases field.read value part <;> rfl

/-- What reading the value of one field keeps, reading those of some fields keeps. -/
theorem readGiven_keeps {P : σ → Prop} {entries : List (RecordField σ × Document)}
    (h : ∀ entry ∈ entries, ∀ part next, P part → entry.1.read entry.2 part = .ok next → P next)
    (hpart : P part) (hread : readGiven entries part = .ok result) : P result := by
  induction entries generalizing part with
  | nil => exact Except.ok.inj hread ▸ hpart
  | cons entry rest ih =>
    obtain ⟨hfirst, hrest⟩ := List.forall_mem_cons.mp h
    obtain ⟨next, hnext, hread⟩ := bind_eq_ok_iff.mp hread
    exact ih hrest (hfirst part next hpart hnext) hread

/-- Where some fields are read, each of them is. -/
theorem exists_read_of_mem {entries : List (RecordField σ × Document)}
    (hread : readGiven entries part = .ok result) {entry : RecordField σ × Document}
    (hentry : entry ∈ entries) : ∃ before after, entry.1.read entry.2 before = .ok after := by
  induction entries generalizing part with
  | nil => cases hentry
  | cons first rest ih =>
    obtain ⟨next, hnext, hread⟩ := bind_eq_ok_iff.mp hread
    rcases List.mem_cons.mp hentry with rfl | hlater
    · exact ⟨part, next, hnext⟩
    · exact ih hread hlater

/-! ### Records -/

/-- A member of an object, by its name. -/
def member (name : String) (value : Document) : Document × Document :=
  (.string (some name), value)

/-- **Items are read** as the values of the fields in their order, if they are not too many. -/
theorem readItems_eq_ok_iff {items : List Document} :
    readItems fields items part = .ok result ↔
      items.length ≤ fields.length ∧ readGiven (fields.zip items) part = .ok result := by
  induction items generalizing fields part with
  | nil => simp [readItems, readGiven]
  | cons item rest ih =>
    cases fields with
    | nil => exact ⟨nofun, fun ⟨h, _⟩ => absurd h (Nat.not_succ_le_zero _)⟩
    | cons field fields =>
      rw [readItems, List.zip_cons_cons, readGiven, bind_eq_ok_iff, bind_eq_ok_iff,
        List.length_cons, List.length_cons, Nat.succ_le_succ_iff]
      simp only [ih]
      exact ⟨fun ⟨next, hnext, hlength, hread⟩ => ⟨hlength, next, hnext, hread⟩,
        fun ⟨hlength, next, hnext, hread⟩ => ⟨next, hnext, hlength, hread⟩⟩

/-- With distinct names the field of the name of a field is this field. -/
theorem fieldOf?_name (hnames : (fields.map RecordField.name).Nodup) {field : RecordField σ}
    (hfield : field ∈ fields) : fieldOf? fields field.name = some field := by
  cases hfound : fieldOf? fields field.name with
  | none => exact absurd rfl (fieldOf?_eq_none_iff.mp hfound field hfield)
  | some found =>
    obtain ⟨hmem, hsame⟩ := fieldOf?_eq_some hfound
    rw [List.inj_on_of_nodup_map hnames hmem hfield hsame]

/-- A member with the name of a field gives the field. -/
theorem given?_member (hnames : (fields.map RecordField.name).Nodup) {field : RecordField σ}
    (hfield : field ∈ fields) (value : Document) :
    given? fields (member field.name value) = some (field, value) := by
  rw [given?, member, memberName]
  simp only [fieldOf?_name hnames hfield, Option.map_some]

/-- So it can be passed. -/
theorem passable_member (hnames : (fields.map RecordField.name).Nodup) {field : RecordField σ}
    (hfield : field ∈ fields) (value : Document) : Passable fields (member field.name value) :=
  ⟨field.name, rfl, fun hnone =>
    absurd (hnone.symm.trans (fieldOf?_name hnames hfield)) (Option.some_ne_none _).symm⟩

/-- What is given under a name comes from a member of this name. -/
theorem exists_member_of_mem_given {entry : RecordField σ × Document}
    (h : entry ∈ given fields members) : member entry.1.name entry.2 ∈ members := by
  obtain ⟨⟨key, value⟩, hmem, hgiven⟩ := List.mem_filterMap.mp h
  rw [given?] at hgiven
  split at hgiven
  · next name hname =>
    obtain ⟨field, hfield, rfl⟩ := Option.map_eq_some_iff.mp hgiven
    obtain ⟨-, rfl⟩ := fieldOf?_eq_some hfield
    cases key with
    | string content =>
      cases content with
      | none => cases hname
      | some content => cases hname; exact hmem
    | _ => cases hname
  · cases hgiven

variable {α : Type} {start : σ} {finish : σ → Option α} {record : α} {fault : Option Fault}

/-- A record is made of what has been read exactly if nothing is broken off and nothing missing. -/
theorem closing_complete_eq_ok_iff :
    (closing fault >>= fun _ => decodeRecord.complete finish part) = .ok record ↔
      fault = none ∧ finish part = some record := by
  cases fault with
  | some fault => exact ⟨nofun, fun ⟨h, _⟩ => absurd h (Option.some_ne_none _)⟩
  | none =>
    change decodeRecord.complete finish part = .ok record ↔ _
    rw [decodeRecord.complete]
    cases finish part with
    | none => exact ⟨nofun, fun ⟨_, h⟩ => absurd h (Option.some_ne_none _).symm⟩
    | some made => simp

/-- **A record is read from an object** exactly if each member can be passed, no field is given
twice, and the values that are given make the record. -/
theorem decodeRecord_object_eq_ok_iff :
    decodeRecord fields start finish (.object members fault) = .ok record ↔
      (∀ member ∈ members, Passable fields member) ∧
        ((given fields members).map fun entry => entry.1.name).Nodup ∧ fault = none ∧
        ∃ part, readGiven (given fields members) start = .ok part ∧ finish part = some record := by
  have hread : decodeRecord fields start finish (.object members fault) =
      readMembers fields [] members start >>= fun part =>
        closing fault >>= fun _ => decodeRecord.complete finish part := rfl
  rw [hread, bind_eq_ok_iff]
  simp only [closing_complete_eq_ok_iff, readMembers_eq_ok_iff]
  constructor
  · rintro ⟨part, ⟨hpass, hnodup, -, hgiven⟩, hfault, hfinish⟩
    exact ⟨hpass, hnodup, hfault, part, hgiven, hfinish⟩
  · rintro ⟨hpass, hnodup, hfault, part, hgiven, hfinish⟩
    exact ⟨part, ⟨hpass, hnodup, fun _ _ => List.not_mem_nil, hgiven⟩, hfault, hfinish⟩

/-- **A record is read from an array** exactly if there are not too many items, and the values of
the fields in their order make the record. -/
theorem decodeRecord_array_eq_ok_iff {items : List Document} :
    decodeRecord fields start finish (.array items fault) = .ok record ↔
      items.length ≤ fields.length ∧ fault = none ∧
        ∃ part, readGiven (fields.zip items) start = .ok part ∧ finish part = some record := by
  have hread : decodeRecord fields start finish (.array items fault) =
      readItems fields items start >>= fun part =>
        closing fault >>= fun _ => decodeRecord.complete finish part := rfl
  rw [hread, bind_eq_ok_iff]
  simp only [closing_complete_eq_ok_iff, readItems_eq_ok_iff]
  constructor
  · rintro ⟨part, ⟨hlength, hgiven⟩, hfault, hfinish⟩
    exact ⟨hlength, hfault, part, hgiven, hfinish⟩
  · rintro ⟨hlength, hfault, part, hgiven, hfinish⟩
    exact ⟨part, ⟨hlength, hgiven⟩, hfault, hfinish⟩

/-! ### One value in every form -/

/-- The **shape of a record**. -/
structure RecordShape where
  /-- The names of its fields, in their order. -/
  names : List String
  /-- The fields that may be left out, and what stands for a field that is left out. -/
  defaults : List (String × Document)
  /-- The fields that may be null. -/
  nullable : List String

/-- Whether a decoder gives **one value for every form of a record**, and none for what is no
form of it. -/
structure OneForm (shape : RecordShape) (decode : Decoder α) : Prop where
  /-- The order of members makes no difference. -/
  order : ∀ {members others : List (Document × Document)}, members.Perm others → ∀ record,
    decode (.object members none) = .ok record ↔ decode (.object others none) = .ok record
  /-- Nor does a member that is no field, if its value can be skipped. -/
  unknown : ∀ {name : String} {value : Document}, name ∉ shape.names → skip value = .ok () →
    ∀ before after record,
      decode (.object (before ++ member name value :: after) none) = .ok record ↔
        decode (.object (before ++ after) none) = .ok record
  /-- An array is read as the object of the first fields. -/
  array : ∀ {values : List Document}, values.length ≤ shape.names.length → ∀ record,
    decode (.array values none) = .ok record ↔
      decode (.object (List.zipWith member shape.names values) none) = .ok record
  /-- A field that may be left out is read as what stands for it. -/
  leftOut : ∀ {name : String} {value : Document} {members : List (Document × Document)},
    (name, value) ∈ shape.defaults → (∀ other ∈ members, other.1 ≠ .string (some name)) →
      ∀ record, decode (.object members none) = .ok record ↔
        decode (.object (members ++ [member name value]) none) = .ok record
  /-- A field that is given twice is an error. -/
  repeated : ∀ {name : String}, name ∈ shape.names → ∀ before between after value other fault,
    ∃ e, decode (.object (before ++ member name value :: between ++ member name other :: after)
      fault) = .error e
  /-- So is a field that is missing, if it may not be left out. -/
  missing : ∀ {name : String} {members : List (Document × Document)}, name ∈ shape.names →
    name ∉ shape.defaults.map Prod.fst → (∀ other ∈ members, other.1 ≠ .string (some name)) →
      ∀ fault, ∃ e, decode (.object members fault) = .error e
  /-- So is null, if the field may not be null. -/
  null : ∀ {name : String}, name ∈ shape.names → name ∉ shape.nullable →
    ∀ before after fault, ∃ e, decode (.object (before ++ member name .null :: after) fault) =
      .error e
  /-- So are more items than there are fields. -/
  surplus : ∀ {values : List Document}, shape.names.length < values.length → ∀ fault,
    ∃ e, decode (.array values fault) = .error e

/-- Whether **fields make up a record** of a shape. -/
structure MakeUp (shape : RecordShape) (fields : List (RecordField σ)) (start : σ)
    (finish : σ → Option α) : Prop extends Separate fields where
  named : fields.map RecordField.name = shape.names
  /-- To read what stands for a field that is left out changes nothing. -/
  default : ∀ name value, (name, value) ∈ shape.defaults →
    ∃ field ∈ fields, field.name = name ∧ field.read value start = .ok start
  /-- Without a field that may not be left out there is no record, whatever else is read. -/
  required : ∀ name ∈ shape.names, name ∉ shape.defaults.map Prod.fst →
    ∃ lacking : σ → Prop, lacking start ∧ (∀ part, lacking part → finish part = none) ∧
      ∀ field ∈ fields, field.name ≠ name → ∀ value part next, lacking part →
        field.read value part = .ok next → lacking next
  notNull : ∀ field ∈ fields, field.name ∉ shape.nullable → ∀ part next,
    field.read .null part ≠ .ok next

/-- Fields with distinct names are given with distinct names by members whose names are theirs. -/
theorem given_zipWith_member (hnames : (fields.map RecordField.name).Nodup)
    {chosen : List (RecordField σ)} (hchosen : ∀ field ∈ chosen, field ∈ fields)
    (values : List Document) :
    given fields (List.zipWith member (chosen.map RecordField.name) values) = chosen.zip values := by
  induction chosen generalizing values with
  | nil => rfl
  | cons field rest ih =>
    obtain ⟨hfield, hrest⟩ := List.forall_mem_cons.mp hchosen
    cases values with
    | nil => rfl
    | cons value values =>
      rw [List.map_cons, List.zipWith_cons_cons, List.zip_cons_cons, ← ih hrest, given,
        List.filterMap_cons_some (given?_member hnames hfield value), given]

/-- Without members of a name the field of this name is not given. -/
theorem name_ne_of_mem_given {name : String}
    (habsent : ∀ other ∈ members, other.1 ≠ .string (some name)) {entry : RecordField σ × Document}
    (hentry : entry ∈ given fields members) : entry.1.name ≠ name := by
  rintro rfl
  exact habsent _ (exists_member_of_mem_given hentry) rfl

/-- The names of fields that have values are among the names of fields, in their order. -/
theorem names_zip_sublist (fields : List (RecordField σ)) (values : List Document) :
    ((fields.zip values).map fun entry => entry.1.name).Sublist
      (fields.map RecordField.name) := by
  induction fields generalizing values with
  | nil => exact List.nil_sublist _
  | cons field rest ih =>
    cases values with
    | nil => exact List.nil_sublist _
    | cons value values => exact (ih values).cons_cons field.name

namespace MakeUp

variable {shape : RecordShape} (h : MakeUp shape fields start finish)

include h

/-- A name of the shape is that of a field. -/
theorem exists_field {name : String} (hname : name ∈ shape.names) :
    ∃ field ∈ fields, field.name = name := by
  rw [← h.named] at hname
  exact List.mem_map.mp hname

/-- **The order of members** makes no difference. -/
theorem order (hperm : members.Perm others) (record : α) :
    decodeRecord fields start finish (.object members none) = .ok record ↔
      decodeRecord fields start finish (.object others none) = .ok record := by
  have hgiven : (given fields members).Perm (given fields others) := hperm.filterMap _
  have hnames := (hgiven.map fun entry => entry.1.name).nodup_iff
  rw [decodeRecord_object_eq_ok_iff, decodeRecord_object_eq_ok_iff]
  refine and_congr (forall_congr' fun member => by rw [hperm.mem_iff]) ?_
  rw [← hnames]
  refine and_congr_right fun hnodup => and_congr_right fun _ => exists_congr fun part =>
    and_congr_left fun _ => ?_
  exact readGiven_perm h.toSeparate hgiven (fun _ => mem_fields_of_mem_given) hnodup

/-- **A member that is no field** makes no difference, if its value can be skipped. -/
theorem unknown {name : String} {value : Document} (hname : name ∉ shape.names)
    (hskip : skip value = .ok ()) (before after : List (Document × Document)) (record : α) :
    decodeRecord fields start finish (.object (before ++ member name value :: after) none) =
        .ok record ↔
      decodeRecord fields start finish (.object (before ++ after) none) = .ok record := by
  have hfield : fieldOf? fields name = none := fieldOf?_eq_none_iff.mpr fun field hmem hsame =>
    hname (h.named ▸ List.mem_map.mpr ⟨field, hmem, hsame⟩)
  have hgiven : given fields (before ++ member name value :: after) =
      given fields (before ++ after) := by
    have hnothing : given? fields (member name value) = none := by
      rw [given?, member, memberName]
      simp only [hfield, Option.map_none]
    rw [given, given, List.filterMap_append, List.filterMap_append,
      List.filterMap_cons_none hnothing]
  have hpass : Passable fields (member name value) := ⟨name, rfl, fun _ => hskip⟩
  rw [decodeRecord_object_eq_ok_iff, decodeRecord_object_eq_ok_iff, hgiven]
  refine and_congr_left fun _ => ?_
  simp only [List.forall_mem_append, List.forall_mem_cons, hpass, true_and]

/-- **An array** is read as the object of the first fields. -/
theorem array {values : List Document} (hlength : values.length ≤ shape.names.length)
    (record : α) :
    decodeRecord fields start finish (.array values none) = .ok record ↔
      decodeRecord fields start finish (.object (List.zipWith member shape.names values) none) =
        .ok record := by
  have hgiven : given fields (List.zipWith member shape.names values) = fields.zip values := by
    rw [← h.named]
    exact given_zipWith_member h.names (fun _ hmem => hmem) values
  have hpass : ∀ other ∈ List.zipWith member shape.names values, Passable fields other := by
    intro other hother
    rw [← List.map_uncurry_zip_eq_zipWith] at hother
    obtain ⟨⟨name, value⟩, hmem, rfl⟩ := List.mem_map.mp hother
    obtain ⟨field, hfield, rfl⟩ := h.exists_field (List.of_mem_zip hmem).1
    exact passable_member h.names hfield value
  have hnodup := h.names.sublist (names_zip_sublist fields values)
  rw [← h.named, List.length_map] at hlength
  rw [decodeRecord_object_eq_ok_iff, decodeRecord_array_eq_ok_iff, hgiven]
  exact ⟨fun ⟨_, hread⟩ => ⟨hpass, hnodup, hread⟩, fun ⟨_, _, hread⟩ => ⟨hlength, hread⟩⟩

/-- **A field that may be left out** is read as what stands for it. -/
theorem leftOut {name : String} {value : Document} (hdefault : (name, value) ∈ shape.defaults)
    (habsent : ∀ other ∈ members, other.1 ≠ .string (some name)) (record : α) :
    decodeRecord fields start finish (.object members none) = .ok record ↔
      decodeRecord fields start finish (.object (members ++ [member name value]) none) =
        .ok record := by
  obtain ⟨field, hfield, rfl, hstart⟩ := h.default name value hdefault
  have hgiven : given fields (members ++ [member field.name value]) =
      given fields members ++ [(field, value)] := by
    rw [given, List.filterMap_append, List.filterMap_cons_some (given?_member h.names hfield value)]
    rfl
  have hkeeps {part : σ} (hread : readGiven (given fields members) start = .ok part) :
      field.read value part = .ok part := by
    refine @readGiven_keeps _ _ _ (fun part => field.read value part = .ok part) _
      (fun entry hentry before after hbefore hnext => ?_) hstart hread
    have hother := h.independent_of_ne hfield (mem_fields_of_mem_given hentry)
      (name_ne_of_mem_given habsent hentry).symm value entry.2 before after
    rw [hbefore, hnext] at hother
    exact hother.mp hnext
  have hpass := passable_member h.names hfield value
  have hnew : field.name ∉ (given fields members).map fun entry => entry.1.name := fun hmem => by
    obtain ⟨entry, hentry, hsame⟩ := List.mem_map.mp hmem
    exact name_ne_of_mem_given habsent hentry hsame
  have hnodup : (((given fields members).map fun entry => entry.1.name) ++ [field.name]).Nodup ↔
      ((given fields members).map fun entry => entry.1.name).Nodup := by
    simp only [← List.concat_eq_append, List.nodup_concat, hnew, not_false_eq_true, true_and]
  rw [decodeRecord_object_eq_ok_iff, decodeRecord_object_eq_ok_iff, hgiven, List.map_append,
    List.map_singleton, hnodup, List.forall_mem_append, List.forall_mem_singleton]
  simp only [hpass, and_true, readGiven_append]
  refine and_congr_right fun _ => and_congr_right fun _ => and_congr_right fun _ =>
    exists_congr fun part => and_congr_left fun _ => ?_
  rw [bind_eq_ok_iff]
  constructor
  · exact fun hread => ⟨part, hread, (readGiven_singleton field value part).trans (hkeeps hread)⟩
  · rintro ⟨before, hread, hlast⟩
    rw [readGiven_singleton, hkeeps hread] at hlast
    exact Except.ok.inj hlast ▸ hread

/-- **A field that is given twice** is an error. -/
theorem repeated {name : String} (hname : name ∈ shape.names)
    (before between after : List (Document × Document)) (value other : Document)
    (fault : Option Fault) :
    ∃ e, decodeRecord fields start finish
      (.object (before ++ member name value :: between ++ member name other :: after) fault) =
        .error e := by
  obtain ⟨field, hfield, rfl⟩ := h.exists_field hname
  refine exists_error fun record hread => ?_
  obtain ⟨-, hnodup, -⟩ := decodeRecord_object_eq_ok_iff.mp hread
  have htwice : given fields (before ++ member field.name value :: between ++
      member field.name other :: after) = (given fields before ++
        (field, value) :: given fields between) ++ (field, other) :: given fields after := by
    simp only [given, List.filterMap_append, List.filterMap_cons, given?_member h.names hfield]
  rw [htwice, List.map_append, List.nodup_append] at hnodup
  refine hnodup.2.2 field.name ?_ field.name List.mem_cons_self rfl
  exact List.mem_map.mpr ⟨_, List.mem_append_right _ List.mem_cons_self, rfl⟩

/-- **A field that is missing** is an error, if it may not be left out. -/
theorem missing {name : String} (hname : name ∈ shape.names)
    (hrequired : name ∉ shape.defaults.map Prod.fst)
    (habsent : ∀ other ∈ members, other.1 ≠ .string (some name)) (fault : Option Fault) :
    ∃ e, decodeRecord fields start finish (.object members fault) = .error e := by
  obtain ⟨lacking, hstart, hfinish, hothers⟩ := h.required name hname hrequired
  refine exists_error fun record hread => ?_
  obtain ⟨-, -, -, part, hgiven, hmade⟩ := decodeRecord_object_eq_ok_iff.mp hread
  have hlacking : lacking part := readGiven_keeps (fun entry hentry part next =>
    hothers _ (mem_fields_of_mem_given hentry) (name_ne_of_mem_given habsent hentry) entry.2
      part next) hstart hgiven
  rw [hfinish part hlacking] at hmade
  cases hmade

/-- **Null** is an error for a field that may not be null. -/
theorem null {name : String} (hname : name ∈ shape.names) (hnull : name ∉ shape.nullable)
    (before after : List (Document × Document)) (fault : Option Fault) :
    ∃ e, decodeRecord fields start finish
      (.object (before ++ member name .null :: after) fault) = .error e := by
  obtain ⟨field, hfield, rfl⟩ := h.exists_field hname
  refine exists_error fun record hread => ?_
  obtain ⟨-, -, -, part, hgiven, -⟩ := decodeRecord_object_eq_ok_iff.mp hread
  have hentry : (field, Document.null) ∈
      given fields (before ++ member field.name .null :: after) :=
    List.mem_filterMap.mpr ⟨_, List.mem_append_right _ List.mem_cons_self,
      given?_member h.names hfield .null⟩
  obtain ⟨earlier, later, hnext⟩ := exists_read_of_mem hgiven hentry
  exact h.notNull field hfield hnull earlier later hnext

/-- **More items than fields** are an error. -/
theorem surplus {values : List Document} (hlength : shape.names.length < values.length)
    (fault : Option Fault) :
    ∃ e, decodeRecord fields start finish (.array values fault) = .error e := by
  refine exists_error fun record hread => ?_
  obtain ⟨hfew, -⟩ := decodeRecord_array_eq_ok_iff.mp hread
  rw [← h.named, List.length_map] at hlength
  omega

/-- **Fields that make up a record** give one value for every form of it. -/
theorem oneForm : OneForm shape (decodeRecord fields start finish) where
  order := h.order
  unknown := h.unknown
  array := h.array
  leftOut := h.leftOut
  repeated := h.repeated
  missing := h.missing
  null := h.null
  surplus := h.surplus

end MakeUp

/-! ### Values that are read alike -/

/-- Members are read alike if a value of theirs is replaced by one that its field reads alike. -/
theorem readMembers_congr {name : String} {field : RecordField σ}
    (hfield : fieldOf? fields name = some field) {value other : Document}
    (hread : field.read value = field.read other) {seen : List String}
    (before after : List (Document × Document)) :
    readMembers fields seen (before ++ member name value :: after) part =
      readMembers fields seen (before ++ member name other :: after) part := by
  induction before generalizing seen part with
  | nil =>
    have hname : memberName (.string (some name)) = .ok name := rfl
    rw [List.nil_append, List.nil_append, member, member, readMembers_known hname hfield,
      readMembers_known hname hfield, hread]
  | cons first rest ih =>
    obtain ⟨key, content⟩ := first
    rw [List.cons_append, List.cons_append]
    cases hname : memberName key with
    | error e => rw [readMembers_unnamed hname, readMembers_unnamed hname]
    | ok found =>
      cases hfound : fieldOf? fields found with
      | none =>
        rw [readMembers_unknown hname hfound, readMembers_unknown hname hfound]
        exact congrArg (skip content >>= ·) (funext fun _ => ih)
      | some earlier =>
        rw [readMembers_known hname hfound, readMembers_known hname hfound]
        refine if_congr Iff.rfl rfl ?_
        exact congrArg (earlier.read content part >>= ·) (funext fun _ => ih)

/-- **A value of an object makes no difference** where its field reads another one alike. -/
theorem decodeRecord_congr {name : String} {field : RecordField σ}
    (hfield : fieldOf? fields name = some field) {value other : Document}
    (hread : field.read value = field.read other) (before after : List (Document × Document)) :
    decodeRecord fields start finish (.object (before ++ member name value :: after) fault) =
      decodeRecord fields start finish (.object (before ++ member name other :: after) fault) := by
  rw [decodeRecord, decodeRecord, readMembers_congr hfield hread]

end LogFilter.Json
