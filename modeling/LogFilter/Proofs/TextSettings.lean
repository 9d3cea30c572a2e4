import LogFilter.Proofs.DecimalText
import LogFilter.Proofs.SettingPlaces

/-!
# Texts in the Environment

The text of a variable is read before it is known what it is wanted for: as a boolean, an integer
of 64 bits or a double, if it can be read as one. A setting that is a text then takes what has been
read as it is printed. So a text is taken as it stands if it cannot be read as any of these, and if
it is printed as it was written; a number with zeros in front or an exponent, and a word in capital
letters, are taken as something else.

The variables of the environment are laid over the file, each in its turn, so a setting comes from
its variable whatever else is set. Three kinds of later variables are an exception: one with the
same name in other letters, one that sets the section as a whole, and one that sets an item of the
section, which makes a list of it.

## Main definitions

* `TakenAs`: how a text is taken for a setting.
* `TextSetting`: the settings that are texts.
* `TextSetting.LoadedFrom`: how such a setting is loaded from the text of its variable.

## Main results

* `takenAs_iff`: a text is taken as the printed form of the value that it stands for.
* `integer?_toString`: an integer as it is printed is read as the integer.
* `TextSetting.loadedFrom_variable`: a setting is loaded from the text of its variable.
* `TextSetting.value?_reprinted`: some texts that are taken as something else.
-/

namespace LogFilter

namespace Settings

/-! ### How a text is taken -/

/-- The word for a boolean. -/
def word (value : Bool) : String :=
  if value then "true" else "false"

/-- Whether a text is no word for a boolean, in whatever letters. -/
def IsNoWord (text : String) : Prop :=
  ∀ value, Text.lowerCase text ≠ word value

/-- The integer of 64 bits that a text is read as. -/
def integer? (text : String) : Option Int :=
  (readInteger? text).filter signed64.contains

/-- How **a text is taken for a setting**: as it stands, unless it can be read as a boolean, an
integer or a double. Then it is taken as this is printed. -/
inductive TakenAs (text : String) : String → Prop
  | word (value : Bool) : Text.lowerCase text = word value → TakenAs text (word value)
  | integer {n : Int} : IsNoWord text → integer? text = some n → TakenAs text (toString n)
  | double {bits : UInt64} : IsNoWord text → integer? text = none → readDouble? text = some bits →
      TakenAs text (plainDouble bits)
  | verbatim : IsNoWord text → integer? text = none → readDouble? text = none → TakenAs text text

section OfText

variable {text : String}

/-- A word for a boolean stands for it. -/
theorem ofText_word {value : Bool} (h : Text.lowerCase text = word value) :
    Atom.ofText text = .boolean value := by
  rw [Atom.ofText, h]
  cases value <;> rfl

/-- Any other text stands for an integer or a double, if it can be read as one. -/
theorem ofText_eq (h : IsNoWord text) :
    Atom.ofText text = match integer? text, readDouble? text with
      | some n, _ => .integer n
      | none, some bits => .double bits
      | none, none => .text text := by
  unfold Atom.ofText
  split
  · next htrue => exact absurd htrue (h true)
  · next hfalse => exact absurd hfalse (h false)
  · rfl

/-- What a text is taken as is the printed form of the value that it stands for. -/
theorem TakenAs.ofAtom_eq {taken : String} (h : TakenAs text taken) :
    Kind.text.ofAtom (Atom.ofText text) = .ok taken := by
  cases h with
  | word value hword =>
    rw [ofText_word hword]
    rfl
  | integer hno hn =>
    rw [ofText_eq hno, hn]
    rfl
  | double hno hn hbits =>
    rw [ofText_eq hno, hn, hbits]
    rfl
  | verbatim hno hn hbits =>
    rw [ofText_eq hno, hn, hbits]
    rfl

/-- Every text is taken as some text. -/
theorem exists_takenAs (text : String) : ∃ taken, TakenAs text taken := by
  by_cases hword : ∃ value, Text.lowerCase text = word value
  · obtain ⟨value, hword⟩ := hword
    exact ⟨_, .word value hword⟩
  · have hno : IsNoWord text := fun value heq => hword ⟨value, heq⟩
    cases hn : integer? text with
    | some n => exact ⟨_, .integer hno hn⟩
    | none =>
      cases hbits : readDouble? text with
      | some bits => exact ⟨_, .double hno hn hbits⟩
      | none => exact ⟨_, .verbatim hno hn hbits⟩

/-- **A text is taken as one text**, the printed form of the value that it stands for. -/
theorem takenAs_iff {taken : String} :
    TakenAs text taken ↔ Kind.text.ofAtom (Atom.ofText text) = .ok taken := by
  refine ⟨TakenAs.ofAtom_eq, fun h => ?_⟩
  obtain ⟨other, hother⟩ := exists_takenAs text
  rw [hother.ofAtom_eq] at h
  exact Except.ok.inj h ▸ hother

end OfText

/-! ### Texts that are taken as they stand -/

/-- A character before the capital letters is its own small letter. -/
theorem lowerChar_eq_self {c : Char} (h : c.toNat < 65) : Text.lowerChar c = c := by
  have hascii : c.toNat < 0x80 := by omega
  rw [Text.lowerChar, if_pos hascii]
  unfold Char.toLower
  split
  · next hupper =>
    have hcapital : 65 ≤ c.toNat := UInt32.le_iff_toNat_le.mp hupper.1
    omega
  · rfl

/-- A text that begins with such a character is no word for a boolean. -/
theorem isNoWord_of_toList_eq_cons {text : String} {c : Char} {rest : List Char}
    (htext : text.toList = c :: rest) (h : c.toNat < 65) : IsNoWord text := by
  intro value hword
  have hdotted : c = 'İ' → False := by
    rintro rfl
    exact absurd h (by decide)
  have hsigma : c = 'Σ' → False := by
    rintro rfl
    exact absurd h (by decide)
  have hlist := congrArg String.toList hword
  rw [Text.lowerCase, String.toList_ofList, htext, Text.lowerFrom.eq_4 _ _ _ hdotted hsigma,
    lowerChar_eq_self h] at hlist
  cases value with
  | true =>
    obtain ⟨rfl, -⟩ := List.cons.inj hlist
    exact absurd h (by decide)
  | false =>
    obtain ⟨rfl, -⟩ := List.cons.inj hlist
    exact absurd h (by decide)

/-- A digit comes before the capital letters. -/
theorem toNat_lt_of_isDigit {c : Char} (h : c.isDigit = true) : c.toNat < 65 := by
  simp only [Char.isDigit, ge_iff_le, Bool.and_eq_true, decide_eq_true_eq] at h
  have hlast : c.toNat ≤ 57 := UInt32.le_iff_toNat_le.mp h.2
  omega

/-- Digits without a sign in front are not split. -/
theorem splitSign_digits {digits : List Char} (h : ∀ c ∈ digits, c.isDigit = true) :
    splitSign digits = (false, digits) := by
  refine splitSign.eq_3 digits ?_ ?_
  all_goals
    rintro rest rfl
    exact absurd (h _ List.mem_cons_self) (by decide)

/-- The text of an integer is no word for a boolean. -/
theorem isNoWord_toString (n : Int) : IsNoWord (toString n) := by
  by_cases hsign : n < 0
  · have htext := toList_toString_int n
    rw [if_pos hsign, List.singleton_append] at htext
    exact isNoWord_of_toList_eq_cons htext (by decide)
  · have htext := toList_toString_int n
    obtain ⟨c, rest, hdigits⟩ := List.exists_cons_of_ne_nil (@Nat.toDigits_ne_nil n.natAbs 10)
    rw [if_neg hsign, List.nil_append, hdigits] at htext
    have hdigit : c.isDigit = true := isDigit_of_mem_toDigits (hdigits ▸ List.mem_cons_self)
    exact isNoWord_of_toList_eq_cons htext (toNat_lt_of_isDigit hdigit)

/-- **The text of an integer of 64 bits** is read as the integer. -/
theorem integer?_toString {n : Int} (h : signed64.contains n = true) :
    integer? (toString n) = some n := by
  have hdigits : ∀ c ∈ Nat.toDigits 10 n.natAbs, c.isDigit = true :=
    fun _ => isDigit_of_mem_toDigits
  have hsplit : splitSign (toString n).toList = (decide (n < 0), Nat.toDigits 10 n.natAbs) := by
    rw [toList_toString_int]
    by_cases hsign : n < 0
    · rw [if_pos hsign, decide_eq_true hsign]
      rfl
    · rw [if_neg hsign, decide_eq_false hsign, List.nil_append, splitSign_digits hdigits]
  have hread : readInteger? (toString n) = some n := by
    have hall : (Nat.toDigits 10 n.natAbs).all Char.isDigit = true := List.all_eq_true.mpr hdigits
    have hempty : (Nat.toDigits 10 n.natAbs).isEmpty = false :=
      List.isEmpty_eq_false_iff.mpr Nat.toDigits_ne_nil
    rw [readInteger?, hsplit]
    simp only [hempty, hall, Bool.not_false, and_self, if_true, decimalValue_toDigits,
      decide_eq_true_eq]
    split <;> congr 1 <;> omega
  rw [integer?, hread, Option.filter_some, if_pos h]

/-! ### The settings that are texts -/

/-- The **settings that are texts**. -/
inductive TextSetting
  | storePath
  | serverBind
  | logFilter

namespace TextSetting

/-- The section of a setting. -/
def part : TextSetting → SectionName
  | storePath => .store
  | serverBind => .server
  | logFilter => .log

/-- Its name in the section. -/
def name : TextSetting → String
  | storePath => "path"
  | serverBind => "bind"
  | logFilter => "filter"

/-- The variable that sets it. -/
def variableName : TextSetting → String
  | storePath => "LOGSIFT__STORE__PATH"
  | serverBind => "LOGSIFT__SERVER__BIND"
  | logFilter => "LOGSIFT__LOG__FILTER"

/-- Its value among all settings; the path of the store may have none. -/
def value? (settings : Settings) : TextSetting → Option String
  | storePath => settings.store.path
  | serverBind => some settings.server.bind
  | logFilter => some settings.log.filter

/-- Whether a variable reaches the place of a setting. -/
def isReachedBy (setting : TextSetting) (variableName : String) : Bool :=
  (variableKey? variableName).any fun key => reaches setting.part.key setting.name (pathOf key)

/-- The variable of a setting leads to its place. -/
theorem pathOf_variableName (setting : TextSetting) :
    (variableKey? setting.variableName).map pathOf =
      some [.member setting.part.key, .member setting.name] := by
  cases setting <;> decide +kernel

/-- **The value of a setting is taken from what stands in its place**, unless that is null. -/
theorem exists_take_of_holds {setting : TextSetting} {tree : Tree} {P : Tree → Prop}
    (h : tree.Holds setting.part.key setting.name P)
    (hnull : ∀ value, P value → ∀ origin, value ≠ .atom .null origin) {settings : Settings}
    (hsettings : ofMembers (Tree.membersOf (some tree)).1 = .ok settings) :
    ∃ value text, P value ∧
      Kind.text.take value ⟨setting.part, .member setting.name⟩ = .ok text ∧
        setting.value? settings = some text := by
  obtain @⟨members, parts, origin, origin', value, hpart, hname, hholds⟩ := h
  have hoptional (key : Key) : optionally Kind.text.take value key =
      (Kind.text.take value key).map some := by
    unfold optionally
    split
    · next null => exact absurd rfl (hnull _ hholds _)
    · rfl
  refine ⟨value, ?_⟩
  change ofMembers members = _ at hsettings
  obtain ⟨-, hstore, hserver, hlog⟩ := ofMembers_eq_ok_iff.mp hsettings
  cases setting with
  | storePath =>
    dsimp only [part, name] at hpart hname ⊢
    rw [sectionOf_table hpart, storeOf, setting_table hname, hoptional] at hstore
    obtain ⟨_, hpath, hsection⟩ := bind_eq_ok_iff.mp hstore
    obtain ⟨text, htake, rfl⟩ := map_eq_ok_iff.mp hpath
    exact ⟨text, hholds, htake, congrArg StoreSettings.path (Except.ok.inj hsection).symm⟩
  | serverBind =>
    dsimp only [part, name] at hpart hname ⊢
    rw [sectionOf_table hpart, serverOf, setting_table hname] at hserver
    obtain ⟨text, htake, hrest⟩ := bind_eq_ok_iff.mp hserver
    obtain ⟨_, -, hsection⟩ := bind_eq_ok_iff.mp hrest
    exact ⟨text, hholds, htake,
      congrArg (some ∘ ServerSettings.bind) (Except.ok.inj hsection).symm⟩
  | logFilter =>
    dsimp only [part, name] at hpart hname ⊢
    rw [sectionOf_table hpart, logOf, setting_table hname] at hlog
    obtain ⟨text, htake, hsection⟩ := bind_eq_ok_iff.mp hlog
    exact ⟨text, hholds, htake, congrArg (some ∘ LogSettings.filter) (Except.ok.inj hsection).symm⟩

/-- Whether **a value has been set**, or something inside it. -/
def SetTo (value : Atom) (tree : Tree) : Prop :=
  tree = .atom value (some .environment) ∨ ∀ other origin, tree ≠ .atom other origin

/-- Something is set inside a value only by making a list or a table of it. -/
theorem setTo_assign (atom : Atom) (value : Tree) (step : Step) (rest : List Step)
    (standing : Tree) : SetTo atom (value.assign (step :: rest) (some standing)) := by
  refine .inr fun other origin => ?_
  cases step with
  | member name =>
    rw [Tree.assign]
    exact Tree.noConfusion
  | item index =>
    rw [Tree.assign]
    exact Tree.noConfusion

/-- The keys of variables that do not reach a place do not lead to it. -/
theorem reaches_of_mem_environmentSource {setting : TextSetting}
    {environment : List (String × String)}
    (h : ∀ entry ∈ environment, setting.isReachedBy entry.1 = false) :
    ∀ entry ∈ environmentSource environment,
      reaches setting.part.key setting.name (pathOf entry.1) = false := by
  intro entry hentry
  obtain ⟨⟨variableName, text⟩, hvariable, hset⟩ := List.mem_filterMap.mp hentry
  obtain ⟨key, hkey, rfl⟩ := Option.map_eq_some_iff.mp hset
  have hreached := h _ hvariable
  rwa [isReachedBy, hkey, Option.any_some] at hreached

/-- **After all variables** the value of a variable stands in the place of its setting, or something
has been set inside it, unless a later variable reaches the place. -/
theorem holds_layer (setting : TextSetting) (tree : Tree) (before : List (String × String))
    (text : String) {after : List (String × String)}
    (hafter : ∀ entry ∈ after, setting.isReachedBy entry.1 = false) :
    (layer tree (environmentSource (before ++ (setting.variableName, text) :: after))).Holds
      setting.part.key setting.name (SetTo (Atom.ofText text)) := by
  obtain ⟨key, hkey, hpath⟩ := Option.map_eq_some_iff.mp setting.pathOf_variableName
  have hsource : environmentSource (before ++ (setting.variableName, text) :: after) =
      environmentSource before ++
        (key, .atom (Atom.ofText text) (some .environment)) :: environmentSource after := by
    simp [environmentSource, hkey]
  have hset := Tree.holds_assign (.atom (Atom.ofText text) (some .environment)) setting.part.key
    setting.name (some (layer tree (environmentSource before)))
  rw [hsource, layer_append_cons, hpath]
  refine Tree.Holds.layer (hset.imp ?_) (reaches_of_mem_environmentSource hafter)
    fun value standing step rest _ => setTo_assign _ value step rest standing
  rintro _ ⟨old, rfl⟩
  exact .inl (by rw [Tree.laidOver])

/-- How **a text setting is loaded** from the text of its variable. -/
structure LoadedFrom (setting : TextSetting) (text : String) (settings : Settings) : Prop where
  /-- It is what the text is taken as. -/
  taken : ∀ taken, setting.value? settings = some taken ↔ TakenAs text taken
  /-- It is the text itself, if that is no word for a boolean and no number. -/
  verbatim : IsNoWord text → integer? text = none → readDouble? text = none →
    setting.value? settings = some text
  /-- It is the text itself, if that is one of the words in small letters. -/
  words : ∀ value, text = word value → setting.value? settings = some text
  /-- It is the text itself, if that is an integer of 64 bits as it is printed. -/
  integers : ∀ n, signed64.contains n = true → text = toString n →
    setting.value? settings = some text

/-- The words for booleans are taken as they stand. -/
theorem takenAs_word (value : Bool) : TakenAs (word value) (word value) := by
  refine .word value ?_
  cases value <;> decide +kernel

/-- What the text of a variable is taken as is the value of its setting. -/
theorem value?_of_takenAs {setting : TextSetting} {content? : String → Option String}
    {path : String} {host : Host} {before after : List (String × String)} {text taken : String}
    {settings : Settings} (hafter : ∀ entry ∈ after, setting.isReachedBy entry.1 = false)
    (hload : load content? (before ++ (setting.variableName, text) :: after) path host =
      .ok settings)
    (htaken : TakenAs text taken) : setting.value? settings = some taken := by
  obtain ⟨source, -, hsettings⟩ := load_eq_ok_iff.mp hload
  have hholds := setting.holds_layer (layer blank source) before text hafter
  have hprinted := htaken.ofAtom_eq
  have hnull : ∀ value, SetTo (Atom.ofText text) value →
      ∀ origin, value ≠ .atom .null origin := by
    rintro _ (rfl | hparts) origin heq
    · rw [(Tree.atom.inj heq).1] at hprinted
      cases hprinted
    · exact hparts _ _ heq
  obtain ⟨value, printed, hset, htake, hloaded⟩ := exists_take_of_holds hholds hnull hsettings
  rcases hset with rfl | hparts
  · rw [Kind.take, hprinted] at htake
    exact hloaded.trans (congrArg some (Except.ok.inj htake).symm)
  · cases value with
    | atom other origin => exact absurd rfl (hparts other origin)
    -- A value inside which something has been set is a list or a table, and these are no texts.
    | list => cases htake
    | table => cases htake

/-- **A text setting is loaded from the text of its variable**, whatever the file and earlier
variables set, unless a later variable reaches its place. -/
theorem loadedFrom_variable (setting : TextSetting) {content? : String → Option String}
    {path : String} {host : Host} {before after : List (String × String)} {text : String}
    {settings : Settings} (hafter : ∀ entry ∈ after, setting.isReachedBy entry.1 = false)
    (hload : load content? (before ++ (setting.variableName, text) :: after) path host =
      .ok settings) : setting.LoadedFrom text settings := by
  have hvalue {taken : String} (htaken : TakenAs text taken) :
      setting.value? settings = some taken := value?_of_takenAs hafter hload htaken
  constructor
  case taken =>
    refine fun taken => ⟨fun hloaded => ?_, hvalue⟩
    obtain ⟨other, hother⟩ := exists_takenAs text
    exact Option.some.inj ((hvalue hother).symm.trans hloaded) ▸ hother
  case verbatim => exact fun hword hinteger hdouble => hvalue (.verbatim hword hinteger hdouble)
  case words =>
    rintro value rfl
    exact hvalue (takenAs_word value)
  case integers =>
    rintro n hn rfl
    exact hvalue (.integer (isNoWord_toString n) (integer?_toString hn))

/-- A path of digits is loaded from its variable, with another variable behind it. -/
theorem loadedFrom_variable_digits :
    (∀ entry ∈ [("LOGSIFT__LOG__FILTER", "debug")], storePath.isReachedBy entry.1 = false) ∧
      load (fun _ => none)
          ([] ++ (storePath.variableName, "007") :: [("LOGSIFT__LOG__FILTER", "debug")]) "logsift" =
        .ok { store := { path := some "7" }, log := { filter := "debug" } } ∧
      storePath.LoadedFrom "007"
        { store := { path := some "7" }, log := { filter := "debug" } } := by
  have hafter : ∀ entry ∈ [("LOGSIFT__LOG__FILTER", "debug")],
      storePath.isReachedBy entry.1 = false :=
    List.forall_mem_singleton.mpr (by decide +kernel)
  have hload := @eq_ok_of_toOption _ _ (load (fun _ => none)
    ([] ++ (storePath.variableName, "007") :: [("LOGSIFT__LOG__FILTER", "debug")]) "logsift")
    { store := { path := some "7" }, log := { filter := "debug" } } (by decide +kernel)
  exact ⟨hafter, hload, loadedFrom_variable storePath hafter hload⟩

/-- A later variable with the same name in other letters wins. -/
theorem load_otherLetters :
    load (fun _ => none) [(storePath.variableName, "1"), ("logsift__store__path", "2")] "logsift" =
      .ok { store := { path := some "2" } } := by
  have hcapital : variableKey? storePath.variableName = some "store.path" := by decide +kernel
  have hsmall : variableKey? "logsift__store__path" = some "store.path" := by decide +kernel
  have hone : Atom.ofText "1" = .integer 1 := by decide +kernel
  have htwo : Atom.ofText "2" = .integer 2 := by decide +kernel
  have hsource : environmentSource
      [(storePath.variableName, "1"), ("logsift__store__path", "2")] =
      [("store.path", .atom (.integer 1) (some .environment)),
        ("store.path", .atom (.integer 2) (some .environment))] := by
    simp only [environmentSource, List.filterMap_cons, List.filterMap_nil, hcapital, hsmall,
      Option.map_some, hone, htwo]
  have hpath : pathOf "store.path" = [.member "store", .member "path"] := by decide +kernel
  refine load_eq_ok_iff.mpr ⟨[], rfl, ?_⟩
  rw [hsource]
  simp only [layer, List.foldl_cons, List.foldl_nil, hpath]
  rfl

/-- **Some texts are taken as something else**: one with zeros in front, one with an exponent and a
word in capital letters; and a later variable with the same name in other letters wins. -/
theorem value?_reprinted :
    let pathFrom (environment : List (String × String)) : Option (Option String) :=
      (load (fun _ => none) environment "logsift").toOption.map fun settings =>
        storePath.value? settings
    pathFrom [(storePath.variableName, "007")] = some (some "7") ∧
      pathFrom [(storePath.variableName, "1e5")] = some (some "100000") ∧
      pathFrom [(storePath.variableName, "TRUE")] = some (some "true") ∧
      pathFrom [(storePath.variableName, "1"), ("logsift__store__path", "2")] = some (some "2") := by
  intro pathFrom
  refine ⟨by decide +kernel, by decide +kernel, by decide +kernel, ?_⟩
  exact congrArg (fun loaded => loaded.toOption.map fun settings => storePath.value? settings)
    load_otherLetters

end TextSetting

end Settings

end LogFilter
