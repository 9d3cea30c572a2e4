import LogFilter.Proofs.Outcomes
import LogFilter.Settings.Load

/-!
# Places of Settings

A setting has a place in the tree of what is set: a section of the outermost table, and in it a
member. A source that is laid over the tree sets values at paths, one after the other, and what
stands at a place is changed by a path that leads there, by one to the section as a whole, and by
one to an item of the section, because then the section becomes a list. Every other path leads past
the place or into what stands there.

## Main definitions

* `Tree.Holds`: what stands at the place of a setting.
* `reaches`: whether a path reaches the place of a setting.

## Main results

* `Tree.holds_assign`: a value stands where it has been set.
* `Tree.Holds.assign`, `Tree.Holds.layer`: what stands at a place is kept by paths that do not
  reach it.
* `load_eq_ok_iff`, `ofMembers_eq_ok_iff`: when settings are loaded.
-/

namespace LogFilter.Settings

/-! ### Paths -/

/-- Whether a path **reaches the place of a setting**: it leads there, to the section as a whole, or
to an item of the section. -/
def reaches (part name : String) : List Step → Bool
  | [.member first] => first == part
  | [.member first, .member second] => first == part && second == name
  | .member first :: .item _ :: _ => first == part
  | _ => false

/-- The step to a name is one to a member. -/
theorem exists_memberStep?_eq {name : List Char} {step : Step} (h : memberStep? name = some step) :
    ∃ text, step = .member text := by
  rw [memberStep?] at h
  split at h
  · cases h
  · exact ⟨_, (Option.some.inj h).symm⟩

/-- A text that is read from the middle of a name begins with a step to a member. -/
theorem exists_steps?_eq_cons {read text : List Char} {steps : List Step}
    (h : steps? (.name read) text = some steps) :
    ∃ name rest, steps = .member name :: rest := by
  have hbegins {name : List Char} {others : Option (List Step)} (h : (do
      let step ← memberStep? name
      return step :: (← others)) = some steps) : ∃ name rest, steps = .member name :: rest := by
    obtain ⟨step, hstep, hrest⟩ := Option.bind_eq_some_iff.mp h
    obtain ⟨rest, -, hsteps⟩ := Option.bind_eq_some_iff.mp hrest
    obtain ⟨text, rfl⟩ := exists_memberStep?_eq hstep
    exact ⟨text, rest, (Option.some.inj hsteps).symm⟩
  induction text generalizing read with
  | nil =>
    rw [steps?] at h
    obtain ⟨step, hstep, rfl⟩ := Option.map_eq_some_iff.mp h
    obtain ⟨name, rfl⟩ := exists_memberStep?_eq hstep
    exact ⟨name, [], rfl⟩
  | cons c rest ih =>
    by_cases hpoint : c = '.'
    · subst hpoint
      rw [steps?] at h
      exact hbegins h
    · by_cases hopen : c = '['
      · subst hopen
        rw [steps?] at h
        exact hbegins h
      · rw [steps?.eq_6 _ _ _ hpoint hopen] at h
        split at h
        · exact ih h
        · cases h

/-- **The path of a key** begins with a member. -/
theorem exists_pathOf_eq_cons (key : String) : ∃ name rest, pathOf key = .member name :: rest := by
  rw [pathOf]
  cases hsteps : steps? (.name []) key.toList with
  | none => exact ⟨key, [], rfl⟩
  | some steps => exact exists_steps?_eq_cons hsteps

/-! ### What stands at a place -/

namespace Tree

/-- Whether **something stands at the place of a setting**, of which a property holds. -/
inductive Holds (part name : String) (P : Tree → Prop) : Tree → Prop
  | intro {members parts : List (String × Tree)} {origin origin' : Option Origin} {value : Tree} :
      members.lookup part = some (.table parts origin') → parts.lookup name = some value →
      P value → Holds part name P (.table members origin)

variable {part name : String} {P : Tree → Prop} {tree : Tree}

/-- What stands at a place has what follows from its properties. -/
theorem Holds.imp {Q : Tree → Prop} (h : tree.Holds part name P)
    (himp : ∀ value, P value → Q value) : tree.Holds part name Q := by
  obtain ⟨hpart, hname, hholds⟩ := h
  exact .intro hpart hname (himp _ hholds)

/-- **A value stands where it has been set**, laid over what stood there. -/
theorem holds_assign (value : Tree) (part name : String) (tree : Option Tree) :
    (value.assign [.member part, .member name] tree).Holds part name
      fun standing => ∃ old, standing = value.laidOver old := by
  rw [assign]
  refine .intro (lookup_put_self _ _ _) (lookup_put_self _ _ _) ⟨_, rfl⟩

/-- **What stands at a place is kept** by a path that does not reach it, if setting something inside
keeps it. -/
theorem Holds.assign {path : List Step} {value : Tree} (h : tree.Holds part name P)
    (hpath : ∃ first rest, path = .member first :: rest)
    (hreaches : reaches part name path = false)
    (hinside : ∀ standing step rest, P standing → P (value.assign (step :: rest) (some standing))) :
    (value.assign path (some tree)).Holds part name P := by
  obtain ⟨first, rest, rfl⟩ := hpath
  obtain @⟨members, parts, origin, origin', standing, hpart, hname, hholds⟩ := h
  by_cases hsame : first = part
  · subst hsame
    rcases rest with _ | ⟨_ | index, rest⟩
    · simp [reaches] at hreaches
    · next second =>
      have hassign : value.assign (.member first :: .member second :: rest)
          (some (.table members origin)) =
          .table (put first (.table (put second (value.assign rest (parts.lookup second)) parts)
            origin') members) origin := by
        simp only [Tree.assign, membersOf, hpart]
      rw [hassign]
      by_cases hsecond : second = name
      · subst hsecond
        cases rest with
        | nil => simp [reaches] at hreaches
        | cons step rest =>
          refine .intro (lookup_put_self _ _ _) (lookup_put_self _ _ _) ?_
          rw [hname]
          exact hinside standing step rest hholds
      · exact .intro (lookup_put_self _ _ _)
          ((lookup_put_of_ne (Ne.symm hsecond) _ _).trans hname) hholds
    · simp [reaches] at hreaches
  · exact .intro ((lookup_put_of_ne (Ne.symm hsame) _ _).trans hpart) hname hholds

/-- So it is by a source whose keys do not reach it. -/
theorem Holds.layer {source : List (String × Tree)} (h : tree.Holds part name P)
    (hsource : ∀ entry ∈ source, reaches part name (pathOf entry.1) = false)
    (hinside : ∀ (value standing : Tree) step rest, P standing →
      P (value.assign (step :: rest) (some standing))) :
    (Settings.layer tree source).Holds part name P := by
  induction source generalizing tree with
  | nil => exact h
  | cons entry rest ih =>
    obtain ⟨hfirst, hrest⟩ := List.forall_mem_cons.mp hsource
    exact ih (h.assign (exists_pathOf_eq_cons entry.1) hfirst (hinside entry.2)) hrest

end Tree

/-- A source is laid over a tree with its first key and then with the rest. -/
theorem layer_cons (tree : Tree) (key : String) (value : Tree) (rest : List (String × Tree)) :
    layer tree ((key, value) :: rest) =
      layer (value.assign (pathOf key) (some tree)) rest :=
  rfl

/-- A source is laid over a tree up to a key, with this key, and then with the rest. -/
theorem layer_append_cons (tree : Tree) (before after : List (String × Tree)) (key : String)
    (value : Tree) : layer tree (before ++ (key, value) :: after) =
      layer (value.assign (pathOf key) (some (layer tree before))) after := by
  rw [layer, List.foldl_append, List.foldl_cons]
  rfl

/-! ### Loading -/

/-- **All settings are taken** from some members exactly if each section is. -/
theorem ofMembers_eq_ok_iff {members : List (String × Tree)} {settings : Settings} :
    ofMembers members = .ok settings ↔
      sectionOf .compiler compilerOf {} members = .ok settings.compiler ∧
        sectionOf .store storeOf {} members = .ok settings.store ∧
        sectionOf .server serverOf {} members = .ok settings.server ∧
        sectionOf .log logOf {} members = .ok settings.log := by
  simp only [ofMembers, bind_eq_ok_iff]
  constructor
  · rintro ⟨_, hcompiler, _, hstore, _, hserver, _, hlog, ⟨⟩⟩
    exact ⟨hcompiler, hstore, hserver, hlog⟩
  · rintro ⟨hcompiler, hstore, hserver, hlog⟩
    exact ⟨_, hcompiler, _, hstore, _, hserver, _, hlog, rfl⟩

/-- **Settings are loaded** exactly if the file is read and they are taken from the tree of what the
file and the environment set. -/
theorem load_eq_ok_iff {content? : String → Option String} {environment : List (String × String)}
    {path : String} {host : Host} {settings : Settings} :
    load content? environment path host = .ok settings ↔
      ∃ source, host.fileSource content? path = .ok source ∧
        ofMembers (Tree.membersOf (some
          (layer (layer blank source) (environmentSource environment)))).1 = .ok settings := by
  rw [load, mapError_eq_ok_iff, bind_eq_ok_iff]

/-- A section is taken from the table that stands in its place. -/
theorem sectionOf_table {α : Type} {part : SectionName} {decode : Tree → Except Fault α}
    {default : α} {members parts : List (String × Tree)} {origin : Option Origin}
    (h : members.lookup part.key = some (.table parts origin)) :
    sectionOf part decode default members = decode (.table parts origin) := by
  rw [sectionOf, h]

/-- A setting is taken from what stands in its place. -/
theorem setting_table {α : Type} {part : SectionName} {name : String} {index : Nat}
    {taker : Taker α} {default : α} {parts : List (String × Tree)} {origin : Option Origin}
    {value : Tree} (h : parts.lookup name = some value) :
    setting part (.table parts origin) name index taker default =
      taker value ⟨part, .member name⟩ := by
  rw [setting, Tree.part?, h]
  rfl

end LogFilter.Settings
