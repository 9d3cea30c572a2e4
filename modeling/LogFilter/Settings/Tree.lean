import LogFilter.Names

/-!
# Trees of Settings

What is set, before it is known what the settings are: tables of members, lists of items and
atoms, each with its origin. Sources are laid over one another in such a tree. A table is laid
over a table member by member, so what one source leaves out another one keeps; everything
else takes the place of what stood there.

## Main definitions

* `Atom`, `Origin`, `Tree`: what is set and where.
* `Tree.Distinct`: trees in which no table has two members with one name.
* `Tree.laidOver`: a tree laid over what stands in its place.
* `Tree.assign`: a tree laid over the place that a path leads to.

## Main statements

* `lookup_put_self`, `lookup_put_of_ne`: putting a member changes this one member only.
-/

namespace LogFilter.Settings

/-- Where a value has been set. -/
inductive Origin
  | file (name : String)
  | environment
  deriving DecidableEq, Repr

/-- A value **without parts**. -/
inductive Atom
  | null
  | boolean (value : Bool)
  | integer (value : Int)
  /-- A double, by its bits. -/
  | double (bits : UInt64)
  | text (content : String)
  deriving DecidableEq, Repr

/-- **What is set**. A list or table that only a path has brought about has no origin. -/
inductive Tree
  | atom (value : Atom) (origin : Option Origin)
  | list (items : List Tree) (origin : Option Origin)
  | table (members : List (String × Tree)) (origin : Option Origin)
  deriving Repr

instance : Inhabited Tree := ⟨.table [] none⟩

/-- Whether **all tables in a tree have distinct names**, as far as they do not stand in lists. -/
inductive Tree.Distinct : Tree → Prop
  | table {members : List (String × Tree)} {origin : Option Origin} :
      (members.map Prod.fst).Nodup → (∀ entry ∈ members, entry.2.Distinct) →
      Tree.Distinct (.table members origin)
  | other {tree : Tree} : (∀ members origin, tree ≠ .table members origin) → tree.Distinct

/-- Puts a member in the place of the one with its name, or else at the end. -/
def put {α : Type} (name : String) (value : α) : List (String × α) → List (String × α)
  | [] => [(name, value)]
  | entry :: rest =>
      if entry.1 = name then (name, value) :: rest else entry :: put name value rest

/-- **What has been put** stands under its name. -/
theorem lookup_put_self {α : Type} (name : String) (value : α) (members : List (String × α)) :
    (put name value members).lookup name = some value := by
  fun_induction put name value members with
  | case1 => simp
  | case2 entry rest same => simp
  | case3 entry rest differ ih =>
    have : (name == entry.1) = false := by simpa using Ne.symm differ
    rw [List.lookup_cons, this, ih]

/-- Under every other name stands what stood there. -/
theorem lookup_put_of_ne {α : Type} {name other : String} (h : other ≠ name) (value : α)
    (members : List (String × α)) :
    (put name value members).lookup other = members.lookup other := by
  fun_induction put name value members with
  | case1 =>
    have : (other == name) = false := by simpa using h
    rw [List.lookup_cons, this]
  | case2 entry rest same =>
    have : (other == name) = false := by simpa using h
    rw [List.lookup_cons, List.lookup_cons, same, this]
  | case3 entry rest differ ih => rw [List.lookup_cons, List.lookup_cons, ih]

/-- The member of a table, or the item of a list. -/
inductive Step
  | member (name : String)
  /-- An item; a negative number counts from behind. -/
  | item (index : Int)
  deriving DecidableEq, Repr

namespace Tree

/-- The members that stand in a place, and their origin. Only a table has any. -/
def membersOf : Option Tree → List (String × Tree) × Option Origin
  | some (.table members origin) => (members, origin)
  | _ => ([], none)

/-- The items that stand in a place, and their origin. Only a list has any. -/
def itemsOf : Option Tree → List Tree × Option Origin
  | some (.list items origin) => (items, origin)
  | _ => ([], none)

mutual

/-- A tree **laid over** what stands in its place. -/
def laidOver (value : Tree) (old : Option Tree) : Tree :=
  match value with
  | .table members _ =>
      let (kept, origin) := membersOf old
      .table (membersOver members kept) origin
  | .list items origin => .list items origin
  | .atom value origin => .atom value origin

/-- Members laid over others, one by one. -/
def membersOver (members kept : List (String × Tree)) : List (String × Tree) :=
  match members with
  | [] => kept
  | (name, value) :: rest =>
      membersOver rest (put name (laidOver value (kept.lookup name)) kept)

end

/-- What fills a list up to an item that is set. -/
def nothing : Tree := .atom .null none

/-- Changes an item of a list, which is filled up to the item if it is too short: behind, or
in front for a negative index. -/
def changeItem (index : Int) (change : Option Tree → Tree) (items : List Tree) : List Tree :=
  let filled :=
    if 0 ≤ index then
      items ++ List.replicate (index.toNat + 1 - items.length) nothing
    else List.replicate ((-index).toNat - items.length) nothing ++ items
  let place := if 0 ≤ index then index.toNat else filled.length - (-index).toNat
  filled.modify place fun item => change (some item)

/-- A tree laid over the place that a path leads to, in what stands there now. What stands in
the way of the path gives way to a table or list without origin. -/
def assign (value : Tree) : List Step → Option Tree → Tree
  | [], old => laidOver value old
  | .member name :: path, old =>
      let (members, origin) := membersOf old
      .table (put name (assign value path (members.lookup name)) members) origin
  | .item index :: path, old =>
      let (items, origin) := itemsOf old
      .list (changeItem index (assign value path) items) origin

end Tree

end LogFilter.Settings
