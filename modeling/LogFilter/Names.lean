/-!
# Sets of Names and Maps from Names

Ids, tag names and object keys are handled in code point order, and a name counts once.
Both collections keep this as a field of the type: their names increase strictly, so two
collections with the same content are equal.

## Main definitions

* `NamedOnce`: entries with distinct names and with values of one kind.
* `NameSet`: a set of names; `NameSet.ofList` forgets order and repetition.
* `NameMap`: a map from names; in `NameMap.ofList` the last of equal names wins.

## Main statements

* `pairwise_lastByName`: the entries that count have strictly increasing names.
-/

namespace LogFilter

/-- Whether **entries have distinct names**, and all their values a property. -/
structure NamedOnce {α : Type} (P : α → Prop) (entries : List (String × α)) : Prop where
  names : (entries.map Prod.fst).Nodup
  values : ∀ entry ∈ entries, P entry.2

/-- Keeps the last entry of each run of entries with one name. -/
def lastOfRuns {α : Type} : List (String × α) → List (String × α)
  | [] => []
  | [entry] => [entry]
  | entry :: next :: rest =>
      if entry.1 = next.1 then lastOfRuns (next :: rest)
      else entry :: lastOfRuns (next :: rest)

/-- Entries in order of their names, where equal names keep their order. -/
def sortByName {α : Type} (entries : List (String × α)) : List (String × α) :=
  entries.mergeSort fun a b => decide (a.1 ≤ b.1)

/-- The **entries that count** among a list with repeated names: in order of names, the last
one of each name. -/
def lastByName {α : Type} (entries : List (String × α)) : List (String × α) :=
  lastOfRuns (sortByName entries)

/-- What is kept of the runs was among the entries. -/
theorem mem_of_mem_lastOfRuns {α : Type} {entry : String × α} {entries : List (String × α)}
    (h : entry ∈ lastOfRuns entries) : entry ∈ entries := by
  fun_induction lastOfRuns entries with
  | case1 => exact h
  | case2 => exact h
  | case3 first next rest same ih => exact List.mem_cons_of_mem _ (ih h)
  | case4 first next rest differ ih =>
    rcases List.mem_cons.1 h with rfl | h
    · exact List.mem_cons_self
    · exact List.mem_cons_of_mem _ (ih h)

/-- Of sorted entries, the last ones of each run have strictly increasing names. -/
theorem pairwise_lastOfRuns {α : Type} {entries : List (String × α)}
    (h : entries.Pairwise fun a b => a.1 ≤ b.1) :
    (lastOfRuns entries).Pairwise fun a b => a.1 < b.1 := by
  fun_induction lastOfRuns entries with
  | case1 => exact .nil
  | case2 => exact List.pairwise_singleton _ _
  | case3 first next rest same ih => exact ih (List.pairwise_cons.1 h).2
  | case4 first next rest differ ih =>
    obtain ⟨below, tail⟩ := List.pairwise_cons.1 h
    refine List.pairwise_cons.2 ⟨fun entry member => ?_, ih tail⟩
    have small : first.1 < next.1 :=
      Std.lt_of_le_of_ne (below next List.mem_cons_self) differ
    rcases List.mem_cons.1 (mem_of_mem_lastOfRuns member) with rfl | later
    · exact small
    · exact Std.lt_of_lt_of_le small ((List.pairwise_cons.1 tail).1 _ later)

/-- Sorted entries have increasing names. -/
theorem pairwise_sortByName {α : Type} (entries : List (String × α)) :
    (sortByName entries).Pairwise fun a b => a.1 ≤ b.1 := by
  have sorted := @List.pairwise_mergeSort _ (fun a b : String × α => decide (a.1 ≤ b.1))
    (fun a b c => by simpa using Std.le_trans) (fun a b => by simpa using Std.le_total) entries
  exact sorted.imp fun h => by simpa using h

/-- **The entries that count** have strictly increasing names. -/
theorem pairwise_lastByName {α : Type} (entries : List (String × α)) :
    (lastByName entries).Pairwise fun a b => a.1 < b.1 :=
  pairwise_lastOfRuns (pairwise_sortByName entries)

/-- A **set of names**, listed in strictly increasing order. -/
structure NameSet where
  toList : List String
  increasing : toList.Pairwise (· < ·)
  deriving DecidableEq

namespace NameSet

/-- The set without members. -/
def empty : NameSet := ⟨[], .nil⟩

instance : Inhabited NameSet := ⟨empty⟩

/-- The set of the names in a list. -/
def ofList (names : List String) : NameSet where
  toList := (lastByName (names.map fun name => (name, ()))).map Prod.fst
  increasing := List.pairwise_map.2 (pairwise_lastByName _)

/-- Whether a name is a member. -/
def contains (set : NameSet) (name : String) : Bool :=
  set.toList.contains name

/-- Whether the set has no members. -/
def isEmpty (set : NameSet) : Bool :=
  set.toList.isEmpty

end NameSet

/-- A **map from names**, its entries listed in strictly increasing order of their names. -/
structure NameMap (α : Type) where
  entries : List (String × α)
  increasing : entries.Pairwise fun a b => a.1 < b.1

namespace NameMap

variable {α β : Type}

/-- The map without entries. -/
def empty : NameMap α := ⟨[], .nil⟩

instance : Inhabited (NameMap α) := ⟨empty⟩

/-- The map of the entries in a list, where the last of equal names wins. -/
def ofList (entries : List (String × α)) : NameMap α :=
  ⟨lastByName entries, pairwise_lastByName entries⟩

/-- The map with every value changed by a function. -/
def map (f : α → β) (m : NameMap α) : NameMap β where
  entries := m.entries.map fun entry => (entry.1, f entry.2)
  increasing := List.pairwise_map.2 m.increasing

/-- The value under a name. -/
def find? (m : NameMap α) (name : String) : Option α :=
  m.entries.lookup name

end NameMap

end LogFilter
