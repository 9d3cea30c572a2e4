import LogFilter.Proofs.Outcomes
import LogFilter.Settings.Decode
import LogFilter.Settings.Path
import Mathlib.Tactic.ByContra

/-!
# Individual Settings

The settings are decoded section by section, and a section value by value. Seen from outside this is
one list of settings, each with a section and a name in it, a default, and a conversion of what is
set for it. If every section that is set is a table then they are read one after the other, in an
order that does not depend on what is set; so all of them are there exactly if each one can be read,
and the fault that is told is that of one of them, at its place.

## Main definitions

* `SettingName`: the individual settings, with the place, the default and the conversion of each.
* `SettingName.setIn?`: what members set for a setting.
* `gather`: all settings, from what is read for each.

## Main results

* `SettingName.key_inj`: no two settings have one key.
* `ofMembers_eq_gather`: **the sections are decoded setting by setting**.
* `gather_eq_ok_iff`, `exists_of_gather_eq_error`: when all settings have been read.
* `place?_of_taken_eq_error`: a value that cannot be converted is told with its place.
-/

namespace LogFilter.Settings

/-! ### The individual settings -/

/-- The **individual settings**. -/
inductive SettingName
  | dialect
  | unknownFields
  | escapeLikeWildcards
  | successStatus
  | storePath
  | bind
  | maxPageSize
  | logFilter
  deriving DecidableEq, Repr

namespace SettingName

/-- The section that a setting stands in. -/
def part : SettingName → SectionName
  | dialect | unknownFields | escapeLikeWildcards | successStatus => .compiler
  | storePath => .store
  | bind | maxPageSize => .server
  | logFilter => .log

/-- Its name in the section. -/
def name : SettingName → String
  | dialect => "dialect"
  | unknownFields => "unknown_fields"
  | escapeLikeWildcards => "escape_like_wildcards"
  | successStatus => "success_status"
  | storePath => "path"
  | bind => "bind"
  | maxPageSize => "max_page_size"
  | logFilter => "filter"

/-- Its place in the outermost table. -/
def place (setting : SettingName) : Key := ⟨setting.part, .member setting.name⟩

/-- The key under which a variable sets it. -/
def key (setting : SettingName) : String := setting.place.text

/-- The type of its values. -/
abbrev Value : SettingName → Type
  | dialect => Sql.Dialect
  | unknownFields => UnknownFields
  | escapeLikeWildcards => Bool
  | successStatus => Int
  | storePath => Option String
  | bind | logFilter => String
  | maxPageSize => Nat

/-- Its value among all settings. -/
def value (settings : Settings) : (setting : SettingName) → setting.Value
  | dialect => settings.compiler.dialect
  | unknownFields => settings.compiler.unknownFields
  | escapeLikeWildcards => settings.compiler.escapeLikeWildcards
  | successStatus => settings.compiler.successStatus
  | storePath => settings.store.path
  | bind => settings.server.bind
  | maxPageSize => settings.server.maxPageSize
  | logFilter => settings.log.filter

/-- Its **default**. -/
def default (setting : SettingName) : setting.Value := setting.value {}

/-- How what is set for it is **converted** to its type. -/
def convert : (setting : SettingName) → Tree → Except Fault setting.Value
  | dialect, tree => oneOf .dialect dialectNames tree dialect.place
  | unknownFields, tree => oneOf .unknownFields unknownFieldsNames tree unknownFields.place
  | escapeLikeWildcards, tree => Kind.boolean.take tree escapeLikeWildcards.place
  | successStatus, tree => (Kind.integer .signed).take tree successStatus.place
  | storePath, tree => optionally Kind.text.take tree storePath.place
  | bind, tree => Kind.text.take tree bind.place
  | maxPageSize, tree =>
      ((Kind.integer .unsigned).take tree maxPageSize.place).map Int.toNat
  | logFilter, tree => Kind.text.take tree logFilter.place

/-- Its value when this is set for it, or nothing. -/
def taken (setting : SettingName) : Option Tree → Except Fault setting.Value
  | some tree => setting.convert tree
  | none => .ok setting.default

end SettingName

/-! ### Keys -/

/-- The key of a section is the path to it. -/
theorem pathOf_sectionKey (part : SectionName) : pathOf part.key = [.member part.key] := by
  cases part <;> decide +kernel

/-- The key of a setting is the path to its place. -/
theorem pathOf_key (setting : SettingName) :
    pathOf setting.key = [.member setting.part.key, .member setting.name] := by
  cases setting <;> decide +kernel

/-- No two sections have one key. -/
theorem sectionKey_inj {part other : SectionName} (h : part.key = other.key) : part = other := by
  revert h
  cases part <;> cases other <;> decide

/-- No two settings stand in one place. -/
theorem SettingName.eq_of_place {setting other : SettingName} (hpart : setting.part = other.part)
    (hname : setting.name = other.name) : setting = other := by
  revert hpart hname
  cases setting <;> cases other <;> decide

/-- No two settings have one key. -/
theorem SettingName.key_inj {setting other : SettingName} (h : setting.key = other.key) :
    setting = other := by
  have hpath := congrArg pathOf h
  rw [pathOf_key, pathOf_key] at hpath
  obtain ⟨hpart, hrest⟩ := List.cons.inj hpath
  obtain ⟨hname, -⟩ := List.cons.inj hrest
  exact eq_of_place (sectionKey_inj (Step.member.inj hpart)) (Step.member.inj hname)

/-! ### Decoding setting by setting -/

/-- All settings, from **what is read for each** of them in turn. -/
def gather (read : (setting : SettingName) → Except Fault setting.Value) :
    Except Fault Settings := do
  let dialect ← read .dialect
  let unknownFields ← read .unknownFields
  let escapeLikeWildcards ← read .escapeLikeWildcards
  let successStatus ← read .successStatus
  let path ← read .storePath
  let bind ← read .bind
  let maxPageSize ← read .maxPageSize
  let filter ← read .logFilter
  return {
    compiler := { dialect, unknownFields, escapeLikeWildcards, successStatus }
    store := { path }
    server := { bind, maxPageSize }
    log := { filter } }

/-- The members of the table in the place of a section. -/
def partsOf (members : List (String × Tree)) (part : SectionName) : List (String × Tree) :=
  (Tree.membersOf (members.lookup part.key)).1

/-- What members set for a setting. -/
def SettingName.setIn? (setting : SettingName) (members : List (String × Tree)) : Option Tree :=
  (partsOf members setting.part).lookup setting.name

/-- Whether every section that is set is a table. -/
def Sectioned (members : List (String × Tree)) : Prop :=
  ∀ (part : SectionName) (tree : Tree), members.lookup part.key = some tree →
    ∃ parts origin, tree = .table parts origin

/-- A section is taken from the members of its table, if it is one. -/
theorem exists_sectionOf_eq {α : Type} {decode : Tree → Except Fault α} {default : α}
    {members : List (String × Tree)} (hmembers : Sectioned members) (part : SectionName)
    (hdefault : decode (.table [] none) = .ok default) :
    ∃ origin, sectionOf part decode default members =
      decode (.table (partsOf members part) origin) := by
  rw [sectionOf, partsOf]
  cases hpart : members.lookup part.key with
  | none => exact ⟨none, hdefault.symm⟩
  | some tree =>
    obtain ⟨parts, origin, rfl⟩ := hmembers part tree hpart
    exact ⟨origin, rfl⟩

/-- What a section takes for a setting is what is set for it, converted, or its default. -/
theorem setting_eq_taken (setting : SettingName) (index : Nat) {taker : Taker setting.Value}
    (htaker : ∀ tree, taker tree setting.place = setting.convert tree)
    (parts : List (String × Tree)) (origin : Option Origin) :
    Settings.setting setting.part (.table parts origin) setting.name index taker setting.default =
      setting.taken (parts.lookup setting.name) := by
  rw [Settings.setting, Tree.part?]
  cases parts.lookup setting.name with
  | none => rfl
  | some tree => exact htaker tree

section Sections

variable (parts : List (String × Tree)) (origin : Option Origin)

/-- The settings of the compiler are read one after the other. -/
theorem compilerOf_table : compilerOf (.table parts origin) = do
    let dialect ← SettingName.dialect.taken (parts.lookup "dialect")
    let unknownFields ← SettingName.unknownFields.taken (parts.lookup "unknown_fields")
    let escapeLikeWildcards ←
      SettingName.escapeLikeWildcards.taken (parts.lookup "escape_like_wildcards")
    let successStatus ← SettingName.successStatus.taken (parts.lookup "success_status")
    return { dialect, unknownFields, escapeLikeWildcards, successStatus } := by
  refine bind_eq_bind (setting_eq_taken .dialect 0 (fun _ => rfl) parts origin) fun _ => ?_
  refine bind_eq_bind (setting_eq_taken .unknownFields 1 (fun _ => rfl) parts origin) fun _ => ?_
  refine bind_eq_bind (setting_eq_taken .escapeLikeWildcards 2 (fun _ => rfl) parts origin)
    fun _ => ?_
  exact bind_eq_bind (setting_eq_taken .successStatus 3 (fun _ => rfl) parts origin) fun _ => rfl

/-- So is that of the store. -/
theorem storeOf_table : storeOf (.table parts origin) = do
    let path ← SettingName.storePath.taken (parts.lookup "path")
    return { path } :=
  bind_eq_bind (setting_eq_taken .storePath 0 (fun _ => rfl) parts origin) fun _ => rfl

/-- So are those of the server. -/
theorem serverOf_table : serverOf (.table parts origin) = do
    let bind ← SettingName.bind.taken (parts.lookup "bind")
    let maxPageSize ← SettingName.maxPageSize.taken (parts.lookup "max_page_size")
    return { bind, maxPageSize } := by
  refine bind_eq_bind (setting_eq_taken .bind 0 (fun _ => rfl) parts origin) fun _ => ?_
  rw [Settings.setting, Tree.part?]
  cases parts.lookup "max_page_size" with
  | none => rfl
  | some tree =>
    -- The section takes an integer and makes it a natural number only at its end.
    change (Kind.integer .unsigned).take tree SettingName.maxPageSize.place >>= _ =
      ((Kind.integer .unsigned).take tree SettingName.maxPageSize.place).map Int.toNat >>= _
    cases (Kind.integer .unsigned).take tree SettingName.maxPageSize.place <;> rfl

/-- So is that of the log. -/
theorem logOf_table : logOf (.table parts origin) = do
    let filter ← SettingName.logFilter.taken (parts.lookup "filter")
    return { filter } :=
  bind_eq_bind (setting_eq_taken .logFilter 0 (fun _ => rfl) parts origin) fun _ => rfl

end Sections

/-- **All settings are read one after the other**, if every section that is set is a table. -/
theorem ofMembers_eq_gather {members : List (String × Tree)} (hmembers : Sectioned members) :
    ofMembers members = gather fun setting => setting.taken (setting.setIn? members) := by
  obtain ⟨_, hcompiler⟩ := exists_sectionOf_eq hmembers .compiler (rfl : compilerOf _ = .ok {})
  obtain ⟨_, hstore⟩ := exists_sectionOf_eq hmembers .store (rfl : storeOf _ = .ok {})
  obtain ⟨_, hserver⟩ := exists_sectionOf_eq hmembers .server (rfl : serverOf _ = .ok {})
  obtain ⟨_, hlog⟩ := exists_sectionOf_eq hmembers .log (rfl : logOf _ = .ok {})
  rw [ofMembers, hcompiler, hstore, hserver, hlog, compilerOf_table, storeOf_table, serverOf_table,
    logOf_table]
  simp only [bind_assoc, pure_bind]
  rfl

/-- **All settings have been read** exactly if each of them has. -/
theorem gather_eq_ok_iff {read : (setting : SettingName) → Except Fault setting.Value}
    {settings : Settings} :
    gather read = .ok settings ↔ ∀ setting, read setting = .ok (setting.value settings) := by
  simp only [gather, bind_eq_ok_iff]
  constructor
  · rintro ⟨_, hdialect, _, hunknown, _, hescape, _, hstatus, _, hpath, _, hbind, _, hpage, _,
      hfilter, hsettings⟩ setting
    cases hsettings
    cases setting <;> assumption
  · intro h
    exact ⟨_, h .dialect, _, h .unknownFields, _, h .escapeLikeWildcards, _, h .successStatus, _,
      h .storePath, _, h .bind, _, h .maxPageSize, _, h .logFilter, rfl⟩

/-- If they have not been read then one of them is at fault. -/
theorem exists_of_gather_eq_error {read : (setting : SettingName) → Except Fault setting.Value}
    {fault : Fault} (h : gather read = .error fault) : ∃ setting, read setting = .error fault := by
  by_contra hnone
  have hread (setting : SettingName) : read setting ≠ .error fault := fun heq =>
    hnone ⟨setting, heq⟩
  simp only [gather, bind_eq_error_iff, hread, false_or] at h
  obtain ⟨_, -, _, -, _, -, _, -, _, -, _, -, _, -, _, -, h⟩ := h
  cases h

/-! ### Faults -/

/-- The place that a fault tells, if it is that of a setting. -/
def Fault.place? : Fault → Option Key
  | .wrongKind _ _ place _ | .unknownName _ _ place | .noName _ place => some place
  | .malformedFile | .misfitNumber _ _ | .fileWithoutTable _ _ | .sectionWithoutTable _ _ => none

/-- What cannot be taken for a place is told with this place. -/
theorem place?_of_take_eq_error {α : Type} {kind : Kind α} {tree : Tree} {place : Key}
    {fault : Fault} (h : kind.take tree place = .error fault) : fault.place? = some place := by
  unfold Kind.take at h
  split at h
  · split at h
    · cases h
    · cases h
      rfl
  · cases h
    rfl
  · cases h
    rfl

/-- So is what is none of a few names. -/
theorem place?_of_oneOf_eq_error {α : Type} {choice : Choice} {values : List (String × α)}
    {tree : Tree} {place : Key} {fault : Fault}
    (h : oneOf choice values tree place = .error fault) : fault.place? = some place := by
  unfold oneOf at h
  dsimp only at h
  split at h
  · cases h
    rfl
  · split at h
    · cases h
    · cases h
      rfl

/-- **A value that cannot be converted** is told with the place of its setting. -/
theorem place?_of_convert_eq_error {setting : SettingName} {tree : Tree} {fault : Fault}
    (h : setting.convert tree = .error fault) : fault.place? = some setting.place := by
  cases setting with
  | dialect | unknownFields => exact place?_of_oneOf_eq_error h
  | escapeLikeWildcards | successStatus | bind | logFilter => exact place?_of_take_eq_error h
  | storePath =>
    change optionally Kind.text.take tree SettingName.storePath.place = _ at h
    unfold optionally at h
    split at h
    · cases h
    · exact place?_of_take_eq_error (map_eq_error_iff.mp h)
  | maxPageSize => exact place?_of_take_eq_error (map_eq_error_iff.mp h)

/-- So is one that stands in a place and cannot be converted. -/
theorem place?_of_taken_eq_error {setting : SettingName} {tree : Option Tree} {fault : Fault}
    (h : setting.taken tree = .error fault) : fault.place? = some setting.place := by
  cases tree with
  | none => cases h
  | some tree => exact place?_of_convert_eq_error h

end LogFilter.Settings
