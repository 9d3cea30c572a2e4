import LogFilter.Proofs.Outcomes
import LogFilter.Settings.File
import Mathlib.Data.List.Nodup

/-!
# Names in Files of Settings

A file says nothing twice. In TOML a statement that sets a key again is refused, and so is one that
opens a table again; in JSON the last member of a name counts. So the members of what a file sets
have distinct names, and those of every table inside it have, and it makes no difference whether a
member is looked up by its name or laid over what has been set before.

A document of TOML is read statement by statement, and each statement changes one table, which a
header or a key leads to. The proof follows the change from this table to the outermost one. Lists
are not followed: what stands in a list is never looked up by name.

## Main definitions

* `Toml.Value.Distinct`: values all of whose tables have distinct names.

## Main results

* `Toml.namedOnce_of_read?`: the members of a TOML document.
* `Settings.distinct_of_ofDocument`: what a JSON document sets.
* `Settings.Host.namedOnce_of_fileSource`: **a file sets every key once**.
-/

namespace LogFilter

namespace NamedOnce

variable {α : Type} {P : α → Prop} {entries : List (String × α)} {entry : String × α}

/-- There may be no entries. -/
theorem nil : NamedOnce P [] := ⟨List.nodup_nil, nofun⟩

/-- A first entry has another name than those behind it. -/
theorem cons_iff : NamedOnce P (entry :: entries) ↔
    entry.1 ∉ entries.map Prod.fst ∧ P entry.2 ∧ NamedOnce P entries := by
  constructor
  · rintro ⟨hnames, hvalues⟩
    obtain ⟨hnew, hnames⟩ := List.nodup_cons.mp hnames
    obtain ⟨hvalue, hvalues⟩ := List.forall_mem_cons.mp hvalues
    exact ⟨hnew, hvalue, hnames, hvalues⟩
  · rintro ⟨hnew, hvalue, hnames, hvalues⟩
    exact ⟨List.nodup_cons.mpr ⟨hnew, hnames⟩, List.forall_mem_cons.mpr ⟨hvalue, hvalues⟩⟩

end NamedOnce

namespace Toml

/-! ### Tables of a document -/

/-- Whether **all tables in a value have distinct names**, as far as they do not stand in lists. -/
inductive Value.Distinct : Value → Prop
  | table {kind : TableKind} {members : Members} : (members.map Prod.fst).Nodup →
      (∀ entry ∈ members, entry.2.Distinct) → Value.Distinct (.table kind members)
  | other {value : Value} : (∀ kind members, value ≠ .table kind members) → value.Distinct

/-- A table is distinct if its members are. -/
theorem Value.distinct_table_iff {kind : TableKind} {members : Members} :
    Value.Distinct (.table kind members) ↔ NamedOnce Value.Distinct members := by
  constructor
  · rintro (⟨hnames, hvalues⟩ | hother)
    · exact ⟨hnames, hvalues⟩
    · exact absurd rfl (hother kind members)
  · rintro ⟨hnames, hvalues⟩
    exact .table hnames hvalues

variable {members changed : Members}

/-- A change adds no name but the one that it is made at. -/
theorem Members.mem_names_of_change {name : String} {f : Option Value → Option Value}
    (h : members.change name f = some changed) {other : String}
    (hother : other ∈ changed.map Prod.fst) : other ∈ members.map Prod.fst ∨ other = name := by
  induction members generalizing changed with
  | nil =>
    obtain ⟨value, -, rfl⟩ := Option.map_eq_some_iff.mp h
    exact .inr (List.mem_singleton.mp hother)
  | cons entry rest ih =>
    rw [Members.change] at h
    split at h
    · next hsame =>
      obtain ⟨value, -, rfl⟩ := Option.map_eq_some_iff.mp h
      rcases List.mem_cons.mp hother with hname | hrest
      · exact .inr hname
      · exact .inl (List.mem_cons_of_mem _ hrest)
    · obtain ⟨tail, htail, rfl⟩ := Option.map_eq_some_iff.mp h
      rcases List.mem_cons.mp hother with hname | hrest
      · exact .inl (hname ▸ List.mem_cons_self)
      · exact (ih htail hrest).imp_left (List.mem_cons_of_mem _)

/-- Whether what a change puts in the place of a distinct value, or of none, is distinct. -/
def KeepsDistinct (f : Option Value → Option Value) : Prop :=
  ∀ old value, (∀ standing, old = some standing → standing.Distinct) → f old = some value →
    value.Distinct

/-- **A change keeps names distinct.** -/
theorem Members.namedOnce_of_change {name : String} {f : Option Value → Option Value}
    (hmembers : NamedOnce Value.Distinct members) (hf : KeepsDistinct f)
    (h : members.change name f = some changed) : NamedOnce Value.Distinct changed := by
  induction members generalizing changed with
  | nil =>
    obtain ⟨value, hvalue, rfl⟩ := Option.map_eq_some_iff.mp h
    exact NamedOnce.cons_iff.mpr ⟨List.not_mem_nil, hf none value nofun hvalue, .nil⟩
  | cons entry rest ih =>
    obtain ⟨hnew, hentry, hrest⟩ := NamedOnce.cons_iff.mp hmembers
    rw [Members.change] at h
    split at h
    · next hsame =>
      obtain ⟨value, hvalue, rfl⟩ := Option.map_eq_some_iff.mp h
      have hstanding : ∀ standing, some entry.2 = some standing → standing.Distinct := by
        rintro _ ⟨⟩
        exact hentry
      exact NamedOnce.cons_iff.mpr ⟨hsame ▸ hnew, hf _ value hstanding hvalue, hrest⟩
    · next hdiffer =>
      obtain ⟨tail, htail, rfl⟩ := Option.map_eq_some_iff.mp h
      refine NamedOnce.cons_iff.mpr ⟨fun hmem => ?_, hentry, ih hrest htail⟩
      rcases mem_names_of_change htail hmem with hold | hname
      · exact hnew hold
      · exact hdiffer hname

/-- Whether a change of members keeps their names distinct. -/
def KeepsNamedOnce (f : Members → Option Members) : Prop :=
  ∀ members changed, NamedOnce Value.Distinct members → f members = some changed →
    NamedOnce Value.Distinct changed

/-- A table of changed members is distinct. -/
theorem KeepsNamedOnce.distinct_of_map {f : Members → Option Members} (hf : KeepsNamedOnce f)
    (hmembers : NamedOnce Value.Distinct members) {kind : TableKind} {value : Value}
    (h : (f members).map (Value.table kind) = some value) : value.Distinct := by
  obtain ⟨inner, hinner, rfl⟩ := Option.map_eq_some_iff.mp h
  exact Value.distinct_table_iff.mpr (hf _ _ hmembers hinner)

/-- So it does at the end of the way that **a header** leads. -/
theorem KeepsNamedOnce.alongHeader {f : Members → Option Members} (hf : KeepsNamedOnce f)
    (path : List String) : KeepsNamedOnce (alongHeader f path) := by
  induction path with
  | nil => exact hf
  | cons name path ih =>
    intro members changed hmembers h
    rw [Toml.alongHeader] at h
    refine Members.namedOnce_of_change hmembers (fun old value hold hvalue => ?_) h
    split at hvalue
    · exact ih.distinct_of_map .nil hvalue
    · cases hvalue
    · exact ih.distinct_of_map (Value.distinct_table_iff.mp (hold _ rfl)) hvalue
    · obtain ⟨last, -, rfl⟩ := Option.map_eq_some_iff.mp hvalue
      exact .other fun _ _ => Value.noConfusion
    · cases hvalue

/-- So it does at the end of the way that **the key of a pair** leads. -/
theorem KeepsNamedOnce.alongKey {f : Members → Option Members} (hf : KeepsNamedOnce f)
    (path : List String) : KeepsNamedOnce (alongKey f path) := by
  induction path with
  | nil => exact hf
  | cons name path ih =>
    intro members changed hmembers h
    rw [Toml.alongKey] at h
    refine Members.namedOnce_of_change hmembers (fun old value hold hvalue => ?_) h
    split at hvalue
    · exact ih.distinct_of_map .nil hvalue
    · exact ih.distinct_of_map (Value.distinct_table_iff.mp (hold _ rfl)) hvalue
    · exact ih.distinct_of_map (Value.distinct_table_iff.mp (hold _ rfl)) hvalue
    · split at hvalue
      · cases hvalue
      · obtain ⟨last, -, rfl⟩ := Option.map_eq_some_iff.mp hvalue
        exact .other fun _ _ => Value.noConfusion
    · cases hvalue

/-- A pair with a distinct value keeps names distinct. -/
theorem keepsNamedOnce_setPair (key : Key) {value : Value} (hvalue : value.Distinct) :
    KeepsNamedOnce (setPair key value) := by
  refine KeepsNamedOnce.alongKey (fun members changed hmembers h => ?_) key.path
  refine Members.namedOnce_of_change hmembers (fun old set _ hset => ?_) h
  split at hset
  · exact Option.some.inj hset ▸ hvalue
  · cases hset

/-- So does the header of a table. -/
theorem keepsNamedOnce_openTable (key : Key) : KeepsNamedOnce (openTable key) := by
  refine KeepsNamedOnce.alongHeader (fun members changed hmembers h => ?_) key.path
  refine Members.namedOnce_of_change hmembers (fun old set hold hset => ?_) h
  split at hset
  · exact Option.some.inj hset ▸ Value.distinct_table_iff.mpr .nil
  · have hinner := Value.distinct_table_iff.mp (hold _ rfl)
    exact Option.some.inj hset ▸ Value.distinct_table_iff.mpr hinner
  · cases hset

/-- So does the header of one more table in a list of tables. -/
theorem keepsNamedOnce_openItem (key : Key) : KeepsNamedOnce (openItem key) := by
  refine KeepsNamedOnce.alongHeader (fun members changed hmembers h => ?_) key.path
  refine Members.namedOnce_of_change hmembers (fun old set _ hset => ?_) h
  split at hset
  · exact Option.some.inj hset ▸ .other fun _ _ => Value.noConfusion
  · exact Option.some.inj hset ▸ .other fun _ _ => Value.noConfusion
  · cases hset

/-- Whether the value that a statement sets, if it sets any, is distinct. -/
def Statement.Distinct : Statement → Prop
  | .table _ | .item _ => True
  | .pair _ value => value.Distinct

/-- **A statement keeps names distinct.** -/
theorem Progress.namedOnce_of_add {progress next : Progress} {statement : Statement}
    (hroot : NamedOnce Value.Distinct progress.root) (hstatement : statement.Distinct)
    (h : progress.add statement = some next) : NamedOnce Value.Distinct next.root := by
  cases statement with
  | table key =>
    obtain ⟨root, hopen, rfl⟩ := Option.map_eq_some_iff.mp h
    exact keepsNamedOnce_openTable key _ _ hroot hopen
  | item key =>
    obtain ⟨root, hopen, rfl⟩ := Option.map_eq_some_iff.mp h
    exact keepsNamedOnce_openItem key _ _ hroot hopen
  | pair key value =>
    obtain ⟨root, hset, rfl⟩ := Option.map_eq_some_iff.mp h
    have hkeeps := (keepsNamedOnce_setPair key hstatement).alongHeader progress.current
    exact hkeeps _ _ hroot hset

/-- The members of a document of such statements have distinct names. -/
theorem Members.namedOnce_of_ofStatements {statements : List Statement}
    (hstatements : ∀ statement ∈ statements, statement.Distinct)
    (h : Members.ofStatements statements = some members) : NamedOnce Value.Distinct members := by
  have hrun (progress final : Progress) (hroot : NamedOnce Value.Distinct progress.root)
      (hfold : statements.foldlM Progress.add progress = some final) :
      NamedOnce Value.Distinct final.root := by
    clear h
    induction statements generalizing progress with
    | nil => exact Option.some.inj hfold ▸ hroot
    | cons statement rest ih =>
      obtain ⟨hfirst, hrest⟩ := List.forall_mem_cons.mp hstatements
      rw [List.foldlM_cons] at hfold
      obtain ⟨next, hadd, hfold⟩ := Option.bind_eq_some_iff.mp hfold
      exact ih hrest next (progress.namedOnce_of_add hroot hfirst hadd) hfold
  obtain ⟨final, hfold, rfl⟩ := Option.map_eq_some_iff.mp h
  exact hrun _ final .nil hfold

/-! ### Values that are read -/

/-- Whether **a reader gives distinct values** only. -/
def ReadsDistinct (read : Reader Value) : Prop :=
  ∀ text value rest, read text = some (value, rest) → value.Distinct

/-- A number is no table, whatever is wrong with it. -/
theorem ofRead_ne_table {α : Type} {ofValue : α → Value}
    (h : ∀ value kind members, ofValue value ≠ .table kind members)
    (read : Except NumberFault α) (kind : TableKind) (members : Members) :
    Value.ofRead ofValue read ≠ .table kind members := by
  cases read with
  | ok value => exact h value kind members
  | error fault => exact Value.noConfusion

/-- A number in another base than ten is no table. -/
theorem based?_distinct {base : Nat} {text : List Char} {value : Value}
    (h : based? base text = some value) : value.Distinct := by
  rw [based?] at h
  split at h
  · obtain ⟨digits, -, rfl⟩ := Option.map_eq_some_iff.mp h
    exact .other (ofRead_ne_table (fun _ _ _ => Value.noConfusion) _)
  · cases h

/-- A number in base ten or a moment is no table. -/
theorem decimal?_distinct {word : List Char} {value : Value} (h : decimal? word = some value) :
    value.Distinct := by
  have hinteger {digits? : Option (List Char)} {condition : Prop} [Decidable condition]
      (h : (do
        let digits ← digits?
        if condition then none else some (Value.ofRead .integer (readBased 10 digits))) =
          some value) : value.Distinct := by
    obtain ⟨digits, -, hread⟩ := Option.bind_eq_some_iff.mp h
    split at hread
    · cases hread
    · exact Option.some.inj hread ▸ .other (ofRead_ne_table (fun _ _ _ => Value.noConfusion) _)
  rw [decimal?] at h
  split at h
  · exact hinteger h
  · obtain ⟨text, -, rfl⟩ := Option.map_eq_some_iff.mp h
    exact .other fun _ _ => Value.noConfusion
  · obtain ⟨text, -, rfl⟩ := Option.map_eq_some_iff.mp h
    exact .other fun _ _ => Value.noConfusion
  · split at h
    · cases h
    · split at h
      · split at h
        · obtain ⟨text, -, rfl⟩ := Option.map_eq_some_iff.mp h
          exact .other (ofRead_ne_table (fun _ _ _ => Value.noConfusion) _)
        · cases h
      · split at h
        · exact hinteger h
        · cases h

/-- A word is no table. -/
theorem scalar?_distinct {word : List Char} {value : Value} (h : scalar? word = some value) :
    value.Distinct := by
  unfold scalar? at h
  split at h
  · exact based?_distinct h
  · exact based?_distinct h
  · exact based?_distinct h
  · split at h
    · exact Option.some.inj h ▸ .other fun _ _ => Value.noConfusion
    · exact Option.some.inj h ▸ .other fun _ _ => Value.noConfusion
    · exact Option.some.inj h ▸ .other (ofRead_ne_table (fun _ _ _ => Value.noConfusion) _)
    · exact Option.some.inj h ▸ .other (ofRead_ne_table (fun _ _ _ => Value.noConfusion) _)
    · split at h
      · exact decimal?_distinct h
      · cases h

/-- The value of a pair is distinct. -/
theorem ReadsDistinct.pair? {read : Reader Value} (hread : ReadsDistinct read) {text : List Char}
    {key : Key} {value : Value} {rest : List Char}
    (h : pair? read text = some ((key, value), rest)) : value.Distinct := by
  rw [Toml.pair?] at h
  obtain ⟨⟨_, behind⟩, -, h⟩ := Option.bind_eq_some_iff.mp h
  dsimp only at h
  split at h
  · obtain ⟨⟨_, _⟩, hvalue, h⟩ := Option.bind_eq_some_iff.mp h
    cases h
    exact hread _ _ _ hvalue
  · cases h

/-- The pairs of a table that is written as a value have distinct names. -/
theorem ReadsDistinct.pairs? {read : Reader Value} (hread : ReadsDistinct read) {fuel : Nat}
    {done : Members} (hdone : NamedOnce Value.Distinct done) {text rest : List Char}
    (h : pairs? read fuel done text = some (members, rest)) : NamedOnce Value.Distinct members := by
  induction fuel generalizing done text with
  | zero => cases h
  | succ fuel ih =>
    rw [Toml.pairs?] at h
    split at h
    · cases h
      exact hdone
    · obtain ⟨⟨⟨key, value⟩, behind⟩, hpair, h⟩ := Option.bind_eq_some_iff.mp h
      obtain ⟨next, hset, h⟩ := Option.bind_eq_some_iff.mp h
      have hnext := keepsNamedOnce_setPair key (hread.pair? hpair) _ _ hdone hset
      split at h
      · exact ih hnext h
      · cases h
        exact hnext
      · cases h

/-- **Values are read distinct.** -/
theorem readsDistinct_value? (room : Nat) : ReadsDistinct (value? room) := by
  induction room using Nat.strongRecOn with
  | ind room ih =>
    intro text value rest h
    unfold value? at h
    split at h
    · obtain ⟨_, -, hread⟩ := Option.map_eq_some_iff.mp h
      exact (Prod.mk.inj hread).1 ▸ .other fun _ _ => Value.noConfusion
    · obtain ⟨_, -, hread⟩ := Option.map_eq_some_iff.mp h
      exact (Prod.mk.inj hread).1 ▸ .other fun _ _ => Value.noConfusion
    · split at h
      · cases h
      · obtain ⟨_, -, hread⟩ := Option.map_eq_some_iff.mp h
        exact (Prod.mk.inj hread).1 ▸ .other fun _ _ => Value.noConfusion
    · split at h
      · cases h
      · next room =>
        obtain ⟨_, hpairs, hread⟩ := Option.map_eq_some_iff.mp h
        have hmembers := (ih room (Nat.lt_succ_self room)).pairs? .nil hpairs
        exact (Prod.mk.inj hread).1 ▸ Value.distinct_table_iff.mpr hmembers
    · obtain ⟨_, hscalar, hread⟩ := Option.map_eq_some_iff.mp h
      exact (Prod.mk.inj hread).1 ▸ scalar?_distinct hscalar

/-- A statement that is read sets a distinct value. -/
theorem distinct_of_statement? {text rest : List Char} {statement : Statement}
    (h : statement? text = some (statement, rest)) : statement.Distinct := by
  unfold statement? at h
  split at h
  · obtain ⟨_, -, h⟩ := Option.bind_eq_some_iff.mp h
    split at h
    · cases h
      trivial
    · cases h
  · obtain ⟨_, -, h⟩ := Option.bind_eq_some_iff.mp h
    split at h
    · cases h
      trivial
    · cases h
  · obtain ⟨⟨⟨key, value⟩, _⟩, hpair, hread⟩ := Option.map_eq_some_iff.mp h
    cases hread
    exact (readsDistinct_value? maxDepth).pair? hpair

/-- So do all statements of a document. -/
theorem distinct_of_statements? {fuel : Nat} {done : List Statement}
    (hdone : ∀ statement ∈ done, statement.Distinct) {text : List Char}
    {statements : List Statement} (h : statements? fuel done text = some statements) :
    ∀ statement ∈ statements, statement.Distinct := by
  induction fuel generalizing done text with
  | zero => cases h
  | succ fuel ih =>
    rw [statements?] at h
    split at h
    · cases h
      exact fun statement hmem => hdone statement (List.mem_reverse.mp hmem)
    · obtain ⟨⟨statement, rest⟩, hread, h⟩ := Option.bind_eq_some_iff.mp h
      obtain ⟨_, -, h⟩ := Option.bind_eq_some_iff.mp h
      exact ih (List.forall_mem_cons.mpr ⟨distinct_of_statement? hread, hdone⟩) h

/-- **The members of a TOML document** have distinct names. -/
theorem namedOnce_of_read? {text : String} (h : read? text = some members) :
    NamedOnce Value.Distinct members := by
  rw [read?] at h
  split at h
  · obtain ⟨statements, hread, hmembers⟩ := Option.bind_eq_some_iff.mp h
    exact Members.namedOnce_of_ofStatements
      (distinct_of_statements? (List.forall_mem_nil _) hread) hmembers
  · cases h

end Toml

namespace Settings

/-! ### What a file sets -/

/-- A table is distinct if its members are. -/
theorem Tree.distinct_table_iff {members : List (String × Tree)} {origin : Option Origin} :
    Tree.Distinct (.table members origin) ↔ NamedOnce Tree.Distinct members := by
  constructor
  · rintro (⟨hnames, hvalues⟩ | hother)
    · exact ⟨hnames, hvalues⟩
    · exact absurd rfl (hother members origin)
  · rintro ⟨hnames, hvalues⟩
    exact .table hnames hvalues

/-- Members in the order of their names are the same members. -/
theorem perm_of_inNameOrder {α ε : Type} {members : List (String × Except ε α)}
    {ordered : List (String × α)} (h : inNameOrder members = .ok ordered) :
    (ordered.map fun entry => (entry.1, Except.ok entry.2)).Perm members := by
  have hmapM {sorted : List (String × Except ε α)} {result : List (String × α)}
      (h : (sorted.mapM fun entry => entry.2.map fun value => (entry.1, value)) = .ok result) :
      result.map (fun entry => (entry.1, Except.ok entry.2)) = sorted := by
    induction sorted generalizing result with
    | nil =>
      cases h
      rfl
    | cons entry rest ih =>
      rw [List.mapM_cons, bind_eq_ok_iff] at h
      obtain ⟨first, hfirst, h⟩ := h
      obtain ⟨others, hothers, h⟩ := bind_eq_ok_iff.mp h
      obtain ⟨value, hvalue, rfl⟩ := map_eq_ok_iff.mp hfirst
      cases h
      rw [List.map_cons, ih hothers, ← hvalue]
  rw [hmapM h]
  exact List.mergeSort_perm members _

/-- What the members of a table set is what each of them sets. -/
theorem ofTomlMembers_eq_map (origin : Origin) (members : Toml.Members) :
    ofTomlMembers origin members = members.map fun entry => (entry.1, ofToml origin entry.2) := by
  induction members with
  | nil => rfl
  | cons entry rest ih => rw [ofTomlMembers, List.map_cons, ih]

/-- Members that are set have distinct names, if those of the document have and all values that
they set are distinct. -/
theorem namedOnce_of_inNameOrder {origin : Origin} {members : Toml.Members}
    {ordered : List (String × Tree)} (hnames : (members.map Prod.fst).Nodup)
    (hvalues : ∀ entry ∈ members, ∀ tree, ofToml origin entry.2 = .ok tree → tree.Distinct)
    (h : inNameOrder (ofTomlMembers origin members) = .ok ordered) :
    NamedOnce Tree.Distinct ordered := by
  have hperm := perm_of_inNameOrder h
  rw [ofTomlMembers_eq_map] at hperm
  constructor
  · have hsame := hperm.map Prod.fst
    rw [List.map_map, List.map_map] at hsame
    exact hsame.nodup_iff.mpr hnames
  · intro entry hentry
    obtain ⟨member, hmember, hset⟩ :=
      List.mem_map.mp (hperm.mem_iff.mp (List.mem_map_of_mem hentry))
    exact hvalues member hmember entry.2 (Prod.mk.inj hset).2

/-- **What a value of a document sets** is distinct, if the value is. -/
theorem distinct_of_ofToml {origin : Origin} {value : Toml.Value} (h : value.Distinct) {tree : Tree}
    (htree : ofToml origin value = .ok tree) : tree.Distinct := by
  induction h generalizing tree with
  | table hnames _ ih =>
    rw [ofToml] at htree
    obtain ⟨members, hmembers, rfl⟩ := map_eq_ok_iff.mp htree
    exact Tree.distinct_table_iff.mpr
      (namedOnce_of_inNameOrder hnames (fun entry hentry _ => ih entry hentry) hmembers)
  | @other value hother =>
    cases value with
    | table kind members => exact absurd rfl (hother kind members)
    | misfit fault => cases htree
    | array items =>
      rw [ofToml] at htree
      obtain ⟨_, -, rfl⟩ := map_eq_ok_iff.mp htree
      exact .other fun _ _ => Tree.noConfusion
    | tables earlier last =>
      rw [ofToml] at htree
      obtain ⟨_, -, htree⟩ := bind_eq_ok_iff.mp htree
      obtain ⟨_, -, htree⟩ := bind_eq_ok_iff.mp htree
      exact Except.ok.inj htree ▸ .other fun _ _ => Tree.noConfusion
    | text | integer | double | boolean | moment =>
      exact Except.ok.inj htree ▸ .other fun _ _ => Tree.noConfusion

/-- The values of an object's members are values that are read. -/
theorem exists_ofDocument_of_mem {room : Nat} {documents : List (Json.Document × Json.Document)}
    {members : List (String × Json)} (h : Json.ofMembers room documents = .ok members)
    {entry : String × Json} (hentry : entry ∈ members) :
    ∃ document, Json.ofDocument room document = .ok entry.2 := by
  induction documents generalizing members with
  | nil =>
    cases h
    cases hentry
  | cons document rest ih =>
    rw [Json.ofMembers] at h
    obtain ⟨name, -, h⟩ := bind_eq_ok_iff.mp h
    obtain ⟨value, hvalue, h⟩ := bind_eq_ok_iff.mp h
    obtain ⟨others, hothers, h⟩ := bind_eq_ok_iff.mp h
    cases h
    rcases List.mem_cons.mp hentry with rfl | hrest
    · exact ⟨document.2, hvalue⟩
    · exact ih hothers hrest

/-- What the members of an object set is what each of them sets. -/
theorem ofJsonMembers_eq_map (origin : Origin) (members : List (String × Json)) :
    ofJsonMembers origin members = members.map fun entry => (entry.1, ofJson origin entry.2) := by
  induction members with
  | nil => rfl
  | cons entry rest ih => rw [ofJsonMembers, List.map_cons, ih]

/-- An object that is read has the last one of the members with each name. -/
theorem exists_ofMembers_of_object {room : Nat} {document : Json.Document}
    {members : List (String × Json)} (h : Json.ofDocument room document = .ok (.object members)) :
    ∃ less documents all, room = less + 1 ∧ Json.ofMembers less documents = .ok all ∧
      members = lastByName all := by
  cases document with
  | null | boolean | bad => cases h
  | number value? | string value? => cases value? <;> cases h
  | array items fault =>
    cases room with
    | zero => cases h
    | succ less =>
      obtain ⟨_, -, h⟩ := bind_eq_ok_iff.mp h
      obtain ⟨_, -, h⟩ := bind_eq_ok_iff.mp h
      cases h
  | object documents fault =>
    cases room with
    | zero => cases h
    | succ less =>
      obtain ⟨all, hall, h⟩ := bind_eq_ok_iff.mp h
      obtain ⟨_, -, h⟩ := bind_eq_ok_iff.mp h
      cases h
      exact ⟨less, documents, all, rfl, hall, rfl⟩

/-- **What a JSON document sets** is distinct. -/
theorem distinct_of_ofDocument (origin : Origin) {room : Nat} {document : Json.Document}
    {value : Json} (h : Json.ofDocument room document = .ok value) :
    (ofJson origin value).Distinct := by
  induction room using Nat.strongRecOn generalizing document value with
  | ind room ih =>
    cases value with
    | object members =>
      obtain ⟨less, documents, all, rfl, hall, rfl⟩ := exists_ofMembers_of_object h
      rw [ofJson, ofJsonMembers_eq_map, Tree.distinct_table_iff]
      constructor
      · rw [List.map_map]
        exact List.pairwise_map.mpr ((pairwise_lastByName all).imp Std.ne_of_lt)
      · intro entry hentry
        obtain ⟨member, hmember, rfl⟩ := List.mem_map.mp hentry
        have hread := List.mem_mergeSort.mp (mem_of_mem_lastOfRuns hmember)
        obtain ⟨inner, hinner⟩ := exists_ofDocument_of_mem hall hread
        exact ih less (Nat.lt_succ_self less) hinner
    | number value => cases value <;> exact .other fun _ _ => Tree.noConfusion
    | null | boolean | string | array => exact .other fun _ _ => Tree.noConfusion

/-- A file in any language sets every key once. -/
theorem Language.namedOnce_of_read {language : Language} {name content : String}
    {source : List (String × Tree)} (h : language.read name content = .ok source) :
    NamedOnce Tree.Distinct source := by
  cases language with
  | toml =>
    rw [read] at h
    split at h
    · next members hmembers =>
      obtain ⟨hnames, hvalues⟩ := Toml.namedOnce_of_read? hmembers
      exact namedOnce_of_inNameOrder hnames
        (fun entry hentry _ => distinct_of_ofToml (hvalues entry hentry))
        (mapError_eq_ok_iff.mp h)
    · cases h
  | json =>
    rw [read] at h
    split at h
    · next value hvalue =>
      obtain ⟨document, hdocument⟩ : ∃ document,
          Json.ofDocument Json.maxDepth document = .ok value := by
        rw [Json.readWhole, bind_eq_ok_iff] at hvalue
        obtain ⟨parsed, hparsed, hrest⟩ := hvalue
        split at hrest
        · cases hrest
          exact ⟨_, hparsed⟩
        · cases hrest
      have hdistinct := distinct_of_ofDocument (.file name) hdocument
      split at h
      · next members origin htree =>
        cases h
        rw [htree] at hdistinct
        exact Tree.distinct_table_iff.mp hdistinct
      · cases h
    · cases h
  | other format => exact format.namedOnce_of_read h

/-- **A file sets every key once.** -/
theorem Host.namedOnce_of_fileSource {host : Host} {content? : String → Option String}
    {path : String} {source : List (String × Tree)}
    (h : host.fileSource content? path = .ok source) : NamedOnce Tree.Distinct source := by
  rw [fileSource] at h
  split at h
  · exact Language.namedOnce_of_read h
  · cases h
    exact .nil
  · cases h
    exact .nil

end Settings

end LogFilter
