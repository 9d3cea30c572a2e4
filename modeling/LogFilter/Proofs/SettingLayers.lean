import LogFilter.Proofs.NamedEntries
import LogFilter.Proofs.SettingPlaces
import LogFilter.Proofs.SingleSettings
import LogFilter.Proofs.SourceNames

/-!
# Layers of Settings

Settings come from three layers: the environment lies over the file, and the file over the defaults.
If the file sets nothing but members of sections, and the variables name individual settings, then
the layers lie over each other setting by setting. A setting has the value of its variable, or else
that of the file, or else its default, and what is set for one does not touch another, also inside
a section that is given in part.

The layers are laid as trees, and every variable changes the whole tree. What the proof carries
along the variables is what stands in the place of each setting: the place that a variable leads to
has what the variable sets, and all other places keep what they had, because no two settings share
a place. No later variable sets the same setting again.

The file is laid over an empty tree. That forgets where its tables come from, and it would merge
members with the same name, but there are none, since a file sets every key once. Nothing else is
needed of the language that the file is written in.

## Main definitions

* `InSections`: files that set nothing but members of sections.
* `NamesSettings`: environments whose variables name individual settings, each at most once.
* `Configuration`: a host with a file and an environment of this kind.
* `Configuration.used`: the value that is used for a setting.
* `Configuration.Layered`: how the layers make the settings.

## Main results

* `layer_blank`: the layer of the file is what it sets.
* `exists_assign_eq`: a variable sets its setting and no other one.
* `exists_layer_environmentSource`: **the environment lies over what was set before**.
* `Configuration.load_eq_gather`: the settings are read from what stands in their places.
* `Configuration.layered`: **environment over file over defaults**, for each setting by itself.
-/

namespace LogFilter.Settings

/-! ### Members laid over nothing -/

/-- Members as they stand when they are **laid over nothing**. -/
def overNothing (members : List (String × Tree)) : List (String × Tree) :=
  members.map fun entry => (entry.1, entry.2.laidOver none)

/-- What stands under a name is laid over nothing. -/
theorem lookup_overNothing (members : List (String × Tree)) (name : String) :
    (overNothing members).lookup name = (members.lookup name).map (Tree.laidOver · none) := by
  induction members with
  | nil => rfl
  | cons entry rest ih =>
    rw [overNothing, List.map_cons, ← overNothing, List.lookup_cons, List.lookup_cons, ih]
    split <;> rfl

/-- A new name is put at the end. -/
theorem put_of_notMem {α : Type} {name : String} {members : List (String × α)}
    (h : name ∉ members.map Prod.fst) (value : α) :
    put name value members = members ++ [(name, value)] := by
  induction members with
  | nil => rfl
  | cons entry rest ih =>
    obtain ⟨hfirst, hrest⟩ := List.ne_and_not_mem_of_not_mem_cons h
    rw [put, if_neg (Ne.symm hfirst), ih hrest, List.cons_append]

/-- Nothing stands under a new name. -/
theorem lookup_of_notMem {α : Type} {name : String} {members : List (String × α)}
    (h : name ∉ members.map Prod.fst) : members.lookup name = none := by
  refine List.lookup_eq_none_iff.mpr fun entry hentry => ?_
  have hdiffer : name ≠ entry.1 := fun heq => h (heq ▸ List.mem_map_of_mem hentry)
  simpa using hdiffer

/-- **Members with new names**, laid over others, stand behind them. -/
theorem membersOver_eq_append {members kept : List (String × Tree)}
    (hnames : (members.map Prod.fst).Nodup)
    (hnew : ∀ name ∈ members.map Prod.fst, name ∉ kept.map Prod.fst) :
    Tree.membersOver members kept = kept ++ overNothing members := by
  induction members generalizing kept with
  | nil => exact (List.append_nil kept).symm
  | cons entry rest ih =>
    obtain ⟨name, value⟩ := entry
    obtain ⟨hfirst, hrest⟩ := List.nodup_cons.mp hnames
    obtain ⟨hname, hlater⟩ := List.forall_mem_cons.mp hnew
    rw [Tree.membersOver, lookup_of_notMem hname, put_of_notMem hname, ih hrest]
    · rw [List.append_assoc]
      rfl
    · intro other hother hmem
      rw [List.map_append, List.mem_append] at hmem
      rcases hmem with hkept | hsame
      · exact hlater other hother hkept
      · exact hfirst (List.mem_singleton.mp hsame ▸ hother)

/-- A table with distinct names, laid over nothing. -/
theorem laidOver_table {members : List (String × Tree)} (hnames : (members.map Prod.fst).Nodup)
    (origin : Option Origin) :
    (Tree.table members origin).laidOver none = .table (overNothing members) none := by
  rw [Tree.laidOver]
  exact congrArg (Tree.table · none) (membersOver_eq_append hnames fun _ _ => List.not_mem_nil)

/-- **A value is converted to the same** when it is laid over nothing. -/
theorem convert_laidOver_eq_ok_iff (setting : SettingName) {tree : Tree} (h : tree.Distinct)
    {value : setting.Value} :
    setting.convert (tree.laidOver none) = .ok value ↔ setting.convert tree = .ok value := by
  cases tree with
  | atom => rw [Tree.laidOver]
  | list => rw [Tree.laidOver]
  | table members origin =>
    rw [laidOver_table (Tree.distinct_table_iff.mp h).names]
    -- A table is wanted only where a name may be given, as its one member.
    have honeOf {α : Type} (choice : Choice) (values : List (String × α)) (place : Key) :
        oneOf choice values (.table (overNothing members) none) place =
          oneOf choice values (.table members origin) place := by
      rcases members with _ | ⟨_, _ | ⟨_, _⟩⟩ <;> rfl
    cases setting with
    | dialect => exact iff_of_eq (congrArg (· = _) (honeOf _ _ _))
    | unknownFields => exact iff_of_eq (congrArg (· = _) (honeOf _ _ _))
    | escapeLikeWildcards | successStatus | storePath | bind | maxPageSize | logFilter =>
      exact ⟨nofun, nofun⟩

/-! ### The layer of the file -/

/-- Whether a file sets nothing but tables **in the places of sections**. -/
def InSections (source : List (String × Tree)) : Prop :=
  ∀ entry ∈ source, ∃ (part : SectionName) (members : List (String × Tree))
    (origin : Option Origin), entry = (part.key, .table members origin)

variable {source : List (String × Tree)}

/-- Sections are laid over what stands there, one by one. -/
theorem InSections.layer_table (h : InSections source) (kept : List (String × Tree))
    (origin : Option Origin) :
    layer (.table kept origin) source = .table (Tree.membersOver source kept) origin := by
  induction source generalizing kept with
  | nil => rfl
  | cons entry rest ih =>
    obtain ⟨hfirst, hrest⟩ := List.forall_mem_cons.mp h
    obtain ⟨part, members, sectionOrigin, rfl⟩ := hfirst
    rw [layer_cons, pathOf_sectionKey, Tree.assign, Tree.membersOver]
    exact ih hrest _

/-- **The layer of the file** is what it sets, laid over nothing. -/
theorem layer_blank (hsections : InSections source) (hnames : (source.map Prod.fst).Nodup) :
    layer blank source = .table (overNothing source) none := by
  rw [blank, hsections.layer_table,
    membersOver_eq_append hnames fun _ _ => List.not_mem_nil, List.nil_append]

/-- An entry that is found under a name is one of the entries. -/
theorem mem_of_lookup {α : Type} {name : String} {entries : List (String × α)} {value : α}
    (h : entries.lookup name = some value) : (name, value) ∈ entries := by
  obtain ⟨before, after, rfl, -⟩ := List.lookup_eq_some_iff.mp h
  exact List.mem_append_right _ List.mem_cons_self

/-- What a file sets in a section, laid over nothing. -/
theorem partsOf_overNothing (hsource : NamedOnce Tree.Distinct source) (part : SectionName) :
    partsOf (overNothing source) part = overNothing (partsOf source part) := by
  rw [partsOf, partsOf, lookup_overNothing]
  cases hpart : source.lookup part.key with
  | none => rfl
  | some tree =>
    cases tree with
    | atom => rfl
    | list => rfl
    | table members origin =>
      have hmembers := Tree.distinct_table_iff.mp (hsource.values _ (mem_of_lookup hpart))
      rw [Option.map_some, laidOver_table hmembers.names]
      rfl

/-- What a file sets for a setting, laid over nothing. -/
theorem setIn?_overNothing (hsource : NamedOnce Tree.Distinct source) (setting : SettingName) :
    setting.setIn? (overNothing source) =
      (setting.setIn? source).map (Tree.laidOver · none) := by
  rw [SettingName.setIn?, partsOf_overNothing hsource, lookup_overNothing]
  rfl

/-- What a file sets for a setting is distinct. -/
theorem distinct_of_setIn? (hsource : NamedOnce Tree.Distinct source) {setting : SettingName}
    {tree : Tree} (h : setting.setIn? source = some tree) : tree.Distinct := by
  rw [SettingName.setIn?, partsOf] at h
  cases hpart : source.lookup setting.part.key with
  | none =>
    rw [hpart] at h
    cases h
  | some standing =>
    rw [hpart] at h
    cases standing with
    | atom => cases h
    | list => cases h
    | table members origin =>
      have hmembers := Tree.distinct_table_iff.mp (hsource.values _ (mem_of_lookup hpart))
      exact hmembers.values _ (mem_of_lookup h)

/-- The sections that a file sets are tables. -/
theorem InSections.sectioned (h : InSections source) (hsource : NamedOnce Tree.Distinct source) :
    Sectioned (overNothing source) := by
  intro part tree htree
  rw [lookup_overNothing] at htree
  obtain ⟨standing, hstanding, rfl⟩ := Option.map_eq_some_iff.mp htree
  have hmem := mem_of_lookup hstanding
  obtain ⟨_, members, origin, hentry⟩ := h _ hmem
  obtain ⟨-, rfl⟩ := Prod.mk.inj hentry
  exact ⟨_, _, laidOver_table (Tree.distinct_table_iff.mp (hsource.values _ hmem)).names origin⟩

/-! ### The layer of the environment -/

/-- The keys that the variables of an environment set, in their order. -/
def variableKeys (environment : List (String × String)) : List String :=
  environment.filterMap fun entry => variableKey? entry.1

/-- Whether the variables of an environment that set anything **name individual settings**, each of
them at most once. -/
structure NamesSettings (environment : List (String × String)) : Prop where
  settings : ∀ key ∈ variableKeys environment, ∃ setting : SettingName, key = setting.key
  once : (variableKeys environment).Nodup

/-- The text of the variable that sets a setting. -/
def SettingName.textIn? (setting : SettingName) (environment : List (String × String)) :
    Option String :=
  (environment.find? fun entry => variableKey? entry.1 == some setting.key).map Prod.snd

/-- What the text of a variable sets. -/
def variableValue (text : String) : Tree := .atom (Atom.ofText text) (some .environment)

/-- A variable that sets nothing is left out. -/
theorem environmentSource_of_none {name : String} (h : variableKey? name = none) (text : String)
    (rest : List (String × String)) :
    environmentSource ((name, text) :: rest) = environmentSource rest ∧
      variableKeys ((name, text) :: rest) = variableKeys rest := by
  simp [environmentSource, variableKeys, h]

/-- A variable that sets something comes before the later ones. -/
theorem environmentSource_of_some {name key : String} (h : variableKey? name = some key)
    (text : String) (rest : List (String × String)) :
    environmentSource ((name, text) :: rest) = (key, variableValue text) :: environmentSource rest ∧
      variableKeys ((name, text) :: rest) = key :: variableKeys rest := by
  simp [environmentSource, variableKeys, variableValue, h]

/-- The variable of a setting is the first one, or one of the later ones. -/
theorem SettingName.textIn?_cons (setting : SettingName) (name text : String)
    (rest : List (String × String)) :
    setting.textIn? ((name, text) :: rest) =
      if variableKey? name = some setting.key then some text else setting.textIn? rest := by
  rw [textIn?, List.find?_cons]
  by_cases h : variableKey? name = some setting.key
  · rw [if_pos h, h, beq_self_eq_true]
    rfl
  · rw [if_neg h, beq_false_of_ne h]
    rfl

/-- A setting whose key is not set has no variable. -/
theorem SettingName.textIn?_eq_none {setting : SettingName}
    {environment : List (String × String)} (h : setting.key ∉ variableKeys environment) :
    setting.textIn? environment = none := by
  rw [textIn?, List.find?_eq_none.mpr, Option.map_none]
  intro entry hentry hsame
  exact h (List.mem_filterMap.mpr ⟨entry, hentry, eq_of_beq hsame⟩)

/-- **A variable sets its setting**, and what is set for every other one stays. -/
theorem exists_assign_eq {members : List (String × Tree)} (hmembers : Sectioned members)
    (origin : Option Origin) (setting : SettingName) (text : String) :
    ∃ changed, (variableValue text).assign (pathOf setting.key) (some (.table members origin)) =
        .table changed origin ∧
      Sectioned changed ∧ setting.setIn? changed = some (variableValue text) ∧
      ∀ other ≠ setting, other.setIn? changed = other.setIn? members := by
  let parts := put setting.name (variableValue text) (partsOf members setting.part)
  let sectionOrigin := (Tree.membersOf (members.lookup setting.part.key)).2
  have hself : (put setting.part.key (.table parts sectionOrigin) members).lookup
      setting.part.key = some (.table parts sectionOrigin) := lookup_put_self _ _ _
  refine ⟨put setting.part.key (.table parts sectionOrigin) members, ?_, ?_, ?_, ?_⟩
  · rw [pathOf_key]
    rfl
  · intro part tree htree
    by_cases hpart : part = setting.part
    · subst hpart
      rw [hself] at htree
      exact ⟨_, _, (Option.some.inj htree).symm⟩
    · rw [lookup_put_of_ne fun hkey => hpart (sectionKey_inj hkey)] at htree
      exact hmembers part tree htree
  · rw [SettingName.setIn?, partsOf, hself]
    exact lookup_put_self _ _ _
  · intro other hother
    rw [SettingName.setIn?, SettingName.setIn?, partsOf, partsOf]
    by_cases hpart : other.part = setting.part
    · rw [hpart, hself]
      exact lookup_put_of_ne (fun hname => hother (SettingName.eq_of_place hpart hname)) _ _
    · rw [lookup_put_of_ne fun hkey => hpart (sectionKey_inj hkey)]

/-- **The layer of the environment**: what a variable sets comes first, and then what was set
before. -/
theorem exists_layer_environmentSource {environment : List (String × String)}
    (henvironment : NamesSettings environment) {members : List (String × Tree)}
    (hmembers : Sectioned members) (origin : Option Origin) :
    ∃ changed, layer (.table members origin) (environmentSource environment) =
        .table changed origin ∧
      Sectioned changed ∧ ∀ setting : SettingName, setting.setIn? changed =
        ((setting.textIn? environment).map variableValue).or (setting.setIn? members) := by
  induction environment generalizing members with
  | nil => exact ⟨members, rfl, hmembers, fun _ => rfl⟩
  | cons entry rest ih =>
    obtain ⟨name, text⟩ := entry
    obtain ⟨hsettings, honce⟩ := henvironment
    cases hkey : variableKey? name with
    | none =>
      obtain ⟨hsource, hkeys⟩ := environmentSource_of_none hkey text rest
      rw [hkeys] at hsettings honce
      obtain ⟨changed, hlayer, hchanged, hset⟩ := ih ⟨hsettings, honce⟩ hmembers
      refine ⟨changed, hsource ▸ hlayer, hchanged, fun setting => ?_⟩
      rw [hset, SettingName.textIn?_cons, if_neg (hkey ▸ nofun)]
    | some key =>
      obtain ⟨hsource, hkeys⟩ := environmentSource_of_some hkey text rest
      rw [hkeys] at hsettings honce
      obtain ⟨⟨setting, rfl⟩, hlater⟩ := List.forall_mem_cons.mp hsettings
      obtain ⟨hnew, honce⟩ := List.nodup_cons.mp honce
      obtain ⟨next, hassign, hnext, hself, hothers⟩ :=
        exists_assign_eq hmembers origin setting text
      obtain ⟨changed, hlayer, hchanged, hset⟩ := ih ⟨hlater, honce⟩ hnext
      refine ⟨changed, ?_, hchanged, fun other => ?_⟩
      · rw [hsource, layer_cons, hassign, hlayer]
      · rw [hset, SettingName.textIn?_cons, hkey]
        by_cases hother : other = setting
        · -- No later variable sets it again.
          rw [hother, SettingName.textIn?_eq_none hnew, hself, if_pos rfl]
          rfl
        · rw [hothers other hother, if_neg]
          exact fun hsame => hother (SettingName.key_inj (Option.some.inj hsame).symm)

/-! ### Configurations -/

/-- A **configuration**: a file that can be read on a host and that sets nothing but members of
sections, and an environment whose variables name individual settings, no two of them the same
one. -/
structure Configuration where
  host : Host
  content? : String → Option String
  path : String
  environment : List (String × String)
  /-- What the file sets. -/
  source : List (String × Tree)
  readable : host.fileSource content? path = .ok source
  inSections : InSections source
  namesSettings : NamesSettings environment

namespace Configuration

variable (configuration : Configuration)

/-- The settings that are loaded. -/
def load : Except Error Settings :=
  Settings.load configuration.content? configuration.environment configuration.path
    configuration.host

/-- The **value that is used for a setting**: that of its variable, or else that of the file,
converted to its type, or else the default. -/
def used (setting : SettingName) : Except Fault setting.Value :=
  match setting.textIn? configuration.environment, setting.setIn? configuration.source with
  | some text, _ => setting.convert (variableValue text)
  | none, some tree => setting.convert tree
  | none, none => .ok setting.default

/-- What stands in the place of a setting when both layers are laid. -/
def standing? (setting : SettingName) : Option Tree :=
  ((setting.textIn? configuration.environment).map variableValue).or
    ((setting.setIn? configuration.source).map (Tree.laidOver · none))

/-- **The settings are read one after the other** from what stands in their places. -/
theorem load_eq_gather : configuration.load =
    (gather fun setting => setting.taken (configuration.standing? setting)).mapError
      Error.settings := by
  have hsource := Host.namedOnce_of_fileSource configuration.readable
  obtain ⟨members, hlayer, hmembers, hset⟩ := exists_layer_environmentSource
    configuration.namesSettings (configuration.inSections.sectioned hsource) none
  have hstanding (setting : SettingName) :
      setting.setIn? members = configuration.standing? setting := by
    rw [hset, setIn?_overNothing hsource, standing?]
  have hload : configuration.load = (ofMembers members).mapError Error.settings := by
    rw [load, Settings.load, configuration.readable]
    change (ofMembers (Tree.membersOf (some (layer (layer blank configuration.source)
      (environmentSource configuration.environment)))).1).mapError Error.settings = _
    rw [layer_blank configuration.inSections hsource.names, hlayer]
    rfl
  rw [hload, ofMembers_eq_gather hmembers]
  simp only [hstanding]

/-- What stands in the place of a setting is converted to the value that is used for it. -/
theorem taken_standing?_eq_ok_iff {setting : SettingName} {value : setting.Value} :
    setting.taken (configuration.standing? setting) = .ok value ↔
      configuration.used setting = .ok value := by
  have hsource := Host.namedOnce_of_fileSource configuration.readable
  rw [standing?, used]
  cases setting.textIn? configuration.environment with
  | some text => rfl
  | none =>
    cases hset : setting.setIn? configuration.source with
    | none => rfl
    | some tree => exact convert_laidOver_eq_ok_iff setting (distinct_of_setIn? hsource hset)

/-- How **the layers of a configuration** make its settings. -/
structure Layered : Prop where
  /-- Settings are loaded exactly if each value that is used can be read, and then each setting has
  this value. -/
  settings : ∀ settings, configuration.load = .ok settings ↔
    ∀ setting, configuration.used setting = .ok (setting.value settings)
  /-- If a value that is used cannot be read then loading fails, and the error tells the place of
  such a value. -/
  fault : (∃ setting fault, configuration.used setting = .error fault) →
    ∃ told, configuration.load = .error (.settings told) ∧ (Error.settings told).kind = .config ∧
      ∃ setting fault, configuration.used setting = .error fault ∧
        told.place? = some setting.place
  /-- A setting is the same in every other configuration that sets the same for it, whatever this
  sets for others. -/
  independent : ∀ (other : Configuration) (setting : SettingName),
    setting.textIn? other.environment = setting.textIn? configuration.environment →
      setting.setIn? other.source = setting.setIn? configuration.source →
      ∀ settings otherSettings, configuration.load = .ok settings →
        other.load = .ok otherSettings → setting.value otherSettings = setting.value settings

/-- **Settings are loaded** exactly if each value that is used can be read. -/
theorem load_eq_ok_iff_used {settings : Settings} : configuration.load = .ok settings ↔
    ∀ setting, configuration.used setting = .ok (setting.value settings) := by
  simp only [load_eq_gather, mapError_eq_ok_iff, gather_eq_ok_iff, taken_standing?_eq_ok_iff]

/-- **The layers are independent**: environment over file over defaults. -/
theorem layered : configuration.Layered := by
  constructor
  case settings => exact fun settings => configuration.load_eq_ok_iff_used
  case fault =>
    rintro ⟨setting, fault, hfault⟩
    have hfails (settings : Settings) :
        gather (fun setting => setting.taken (configuration.standing? setting)) ≠ .ok settings := by
      intro hsettings
      have hused :=
        configuration.taken_standing?_eq_ok_iff.mp (gather_eq_ok_iff.mp hsettings setting)
      rw [hfault] at hused
      cases hused
    obtain ⟨told, htold⟩ := exists_error hfails
    obtain ⟨wrong, hwrong⟩ := exists_of_gather_eq_error htold
    have hunread (value : wrong.Value) : configuration.used wrong ≠ .ok value := by
      intro hused
      rw [configuration.taken_standing?_eq_ok_iff.mpr hused] at hwrong
      cases hwrong
    obtain ⟨wrongFault, hwrongFault⟩ := exists_error hunread
    refine ⟨told, ?_, rfl, wrong, wrongFault, hwrongFault, place?_of_taken_eq_error hwrong⟩
    rw [load_eq_gather, htold]
    rfl
  case independent =>
    intro other setting htext hset settings otherSettings hload hother
    have hused := configuration.load_eq_ok_iff_used.mp hload setting
    have hotherUsed := other.load_eq_ok_iff_used.mp hother setting
    rw [used, htext, hset, ← used, hused] at hotherUsed
    exact (Except.ok.inj hotherUsed).symm

/-- Members that are not at fault are put in the order of their names. -/
theorem inNameOrder_eq_ok {α ε : Type} {members ordered : List (String × α)}
    (hperm : members.Perm ordered) (hordered : (ordered.map Prod.fst).Pairwise (· < ·)) :
    inNameOrder (members.map fun entry => (entry.1, (.ok entry.2 : Except ε α))) = .ok ordered := by
  have hsort : sortByName (members.map fun entry => (entry.1, (.ok entry.2 : Except ε α))) =
      ordered.map fun entry => (entry.1, .ok entry.2) :=
    sortByName_eq_of_perm (hperm.map _) (List.pairwise_map.mpr (List.pairwise_map.mp hordered))
  rw [inNameOrder, hsort, List.mapM_map]
  exact List.mapM_pure.trans (congrArg Except.ok (List.map_id ordered))

/-- A file that sets two sections in part. -/
def partlyGivenText : String :=
  "[compiler]\ndialect = \"postgres\"\nunknown_fields = \"reject\"\n" ++
    "escape_like_wildcards = true\n\n[server]\nbind = \"0.0.0.0:9000\"\n"

/-- The steps from the root that lead to it. -/
def partlyGivenSteps : List (List Char) := ["tmp".toList, "logsift_settings_test.toml".toList]

/-- What it sets under a name. -/
def partlyGivenSource (name : String) : List (String × Tree) :=
  let origin := some (Origin.file name)
  [("compiler", .table [("dialect", .atom (.text "postgres") origin),
      ("escape_like_wildcards", .atom (.boolean true) origin),
      ("unknown_fields", .atom (.text "reject") origin)] origin),
    ("server", .table [("bind", .atom (.text "0.0.0.0:9000") origin)] origin)]

set_option maxRecDepth 2000 in
/-- The file sets this. -/
theorem read_partlyGiven (name : String) :
    Language.toml.read name partlyGivenText = .ok (partlyGivenSource name) := by
  let origin := some (Origin.file name)
  let compiler : Toml.Members := [("dialect", .text "postgres"),
    ("unknown_fields", .text "reject"), ("escape_like_wildcards", .boolean true)]
  let server : Toml.Members := [("bind", .text "0.0.0.0:9000")]
  have hread : Toml.read? (unmarked partlyGivenText) =
      some [("compiler", .table .opened compiler), ("server", .table .opened server)] := rfl
  have hperm : List.Perm
      [("dialect", Tree.atom (.text "postgres") origin),
        ("unknown_fields", .atom (.text "reject") origin),
        ("escape_like_wildcards", .atom (.boolean true) origin)]
      [("dialect", .atom (.text "postgres") origin),
        ("escape_like_wildcards", .atom (.boolean true) origin),
        ("unknown_fields", .atom (.text "reject") origin)] := .cons _ (.swap _ _ _)
  have hnames : ["dialect", "escape_like_wildcards", "unknown_fields"].Pairwise (· < ·) := by
    decide
  have hcompiler : inNameOrder (ofTomlMembers (.file name) compiler) = .ok _ :=
    inNameOrder_eq_ok hperm hnames
  have hserver : inNameOrder (ofTomlMembers (.file name) server) = .ok _ :=
    inNameOrder_eq_ok (.refl [("bind", Tree.atom (.text "0.0.0.0:9000") origin)])
      (List.pairwise_singleton _ _)
  have hsections : inNameOrder (ofTomlMembers (.file name)
      [("compiler", .table .opened compiler), ("server", .table .opened server)]) =
      .ok (partlyGivenSource name) := by
    have hparts : ["compiler", "server"].Pairwise (· < ·) := by decide
    rw [ofTomlMembers, ofToml, hcompiler, ofTomlMembers, ofToml, hserver]
    exact inNameOrder_eq_ok (.refl (partlyGivenSource name)) hparts
  simp only [Language.read, hread, hsections]
  rfl

/-- The files that can be read on a host beside it. -/
def partlyGivenContent? (host : Host) (name : String) : Option String :=
  if name = host.nameOf partlyGivenSteps then some partlyGivenText else none

/-- A variable for the size of a page, if there is one. -/
def pageSizeVariable (pageSize? : Option String) : List (String × String) :=
  pageSize?.toList.map fun pageSize => ("LOGSIFT__SERVER__MAX_PAGE_SIZE", pageSize)

/-- It names one setting. -/
theorem namesSettings_pageSizeVariable (pageSize? : Option String) :
    NamesSettings (pageSizeVariable pageSize?) := by
  cases pageSize? with
  | none => exact ⟨List.forall_mem_nil _, List.nodup_nil⟩
  | some pageSize =>
    have hkey : variableKey? "LOGSIFT__SERVER__MAX_PAGE_SIZE" =
        some SettingName.maxPageSize.key := by decide +kernel
    have hkeys : variableKeys (pageSizeVariable (some pageSize)) =
        [SettingName.maxPageSize.key] := (environmentSource_of_some hkey pageSize []).2
    constructor
    · rw [hkeys]
      exact List.forall_mem_cons.mpr ⟨⟨_, rfl⟩, List.forall_mem_nil _⟩
    · rw [hkeys]
      exact List.nodup_singleton _

/-- The configuration of a host with this file and this variable. -/
def partlyGiven (host : Host) (pageSize? : Option String) : Configuration where
  host := host
  content? := partlyGivenContent? host
  path := "/tmp/logsift_settings_test.toml"
  environment := pageSizeVariable pageSize?
  source := partlyGivenSource (host.nameOf partlyGivenSteps)
  readable := (Host.fileSource_eq_read host.toml_mem List.mem_cons_self rfl (by decide) rfl rfl
    (if_pos rfl)).trans (read_partlyGiven _)
  inSections := List.forall_mem_cons.mpr ⟨⟨.compiler, _, _, rfl⟩,
    List.forall_mem_cons.mpr ⟨⟨.server, _, _, rfl⟩, List.forall_mem_nil _⟩⟩
  namesSettings := namesSettings_pageSizeVariable pageSize?

/-- One section is given by both layers and the other one by the file alone. A variable that is no
number is refused, and any other leaves the address that stands beside it. -/
theorem layered_partlyGiven :
    (partlyGiven .plain none).load = .ok {
      compiler := {
        dialect := .postgres, unknownFields := .reject, escapeLikeWildcards := true }
      server := { bind := "0.0.0.0:9000" } } ∧
    (partlyGiven .plain (some "50")).load = .ok {
      compiler := {
        dialect := .postgres, unknownFields := .reject, escapeLikeWildcards := true }
      server := { bind := "0.0.0.0:9000", maxPageSize := 50 } } ∧
    (∃ told, (partlyGiven .plain (some "many")).load = .error (.settings told) ∧
      (Error.settings told).kind = .config) ∧
    ∀ settings, (partlyGiven .plain (some "7")).load = .ok settings →
      settings.server.bind = "0.0.0.0:9000" := by
  have hfile : (partlyGiven .plain none).load = .ok {
      compiler := {
        dialect := .postgres, unknownFields := .reject, escapeLikeWildcards := true }
      server := { bind := "0.0.0.0:9000" } } := by
    refine ((partlyGiven .plain none).layered.settings _).mpr fun setting => ?_
    cases setting <;> rfl
  refine ⟨hfile, ?_, ?_, fun settings hload => ?_⟩
  · refine ((partlyGiven .plain (some "50")).layered.settings _).mpr fun setting => ?_
    cases setting <;> rfl
  · obtain ⟨told, hload, hkind, -⟩ := (partlyGiven .plain (some "many")).layered.fault
      ⟨.maxPageSize, _, rfl⟩
    exact ⟨told, hload, hkind⟩
  · exact (partlyGiven .plain none).layered.independent (partlyGiven .plain (some "7")) .bind rfl
      rfl _ _ hfile hload

end Configuration

end LogFilter.Settings
