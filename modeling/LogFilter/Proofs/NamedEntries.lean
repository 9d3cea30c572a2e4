import LogFilter.Names
import LogFilter.Proofs.StrictPolicy
import Mathlib.Data.List.Nodup

/-!
# Entries That Count

Where names are repeated the last entry of a name counts, and the entries that count are in order
of their names. If no name is repeated, then it makes no difference in which order they come, and
entries whose names increase already stay as they are. A set of names depends on its members only.

## Main results

* `sortByName_eq_of_perm`: entries with distinct names have one order.
* `lastByName_of_increasing`: entries whose names increase strictly.
* `NameSet.ext_iff_contains`: a set is known by its members.
* `NameSet.ofList_eq_iff`: which lists make one set.
-/

namespace LogFilter

variable {α : Type}

/-- Of entries whose names increase strictly each is the only one of its run. -/
theorem lastOfRuns_of_increasing {entries : List (String × α)}
    (h : entries.Pairwise fun a b => a.1 < b.1) : lastOfRuns entries = entries := by
  fun_induction lastOfRuns entries with
  | case1 => rfl
  | case2 => rfl
  | case3 first next rest same ih =>
    have hless := (List.pairwise_cons.mp h).1 next List.mem_cons_self
    rw [same] at hless
    exact absurd hless (Std.lt_irrefl)
  | case4 first next rest differ ih => rw [ih (List.pairwise_cons.mp h).2]

/-- **Entries with distinct names** have one order, in whatever order they come. -/
theorem sortByName_eq_of_perm {entries ordered : List (String × α)} (hperm : entries.Perm ordered)
    (hordered : ordered.Pairwise fun a b => a.1 < b.1) : sortByName entries = ordered := by
  refine List.Perm.eq_of_pairwise (fun a b ha hb hab hba => ?_) (pairwise_sortByName entries)
    (hordered.imp Std.le_of_lt) ((List.mergeSort_perm _ _).trans hperm)
  have hnames : (ordered.map Prod.fst).Nodup :=
    List.pairwise_map.mpr (hordered.imp fun hless => Std.ne_of_lt hless)
  have hmem : a ∈ ordered := hperm.mem_iff.mp (List.mem_mergeSort.mp ha)
  exact List.inj_on_of_nodup_map hnames hmem hb (Std.le_antisymm hab hba)

/-- **Entries whose names increase strictly** all count, as they stand. -/
theorem lastByName_of_increasing {entries : List (String × α)}
    (h : entries.Pairwise fun a b => a.1 < b.1) : lastByName entries = entries := by
  rw [lastByName, sortByName_eq_of_perm (.refl _) h, lastOfRuns_of_increasing h]

namespace NameSet

/-- **A set of names is known by its members.** -/
theorem ext_iff_contains {set other : NameSet} :
    set = other ↔ ∀ name, set.contains name = true ↔ other.contains name = true := by
  refine ⟨fun heq name => heq ▸ Iff.rfl, fun hsame => ?_⟩
  have hnodup (s : NameSet) : s.toList.Nodup := s.increasing.imp fun hless => Std.ne_of_lt hless
  have hperm : set.toList.Perm other.toList := by
    refine (List.perm_ext_iff_of_nodup (hnodup set) (hnodup other)).mpr fun name => ?_
    simpa only [contains, List.contains_iff_mem] using hsame name
  have hlist : set.toList = other.toList :=
    hperm.eq_of_pairwise (fun a b _ _ hab hba => absurd (Std.lt_trans hab hba) Std.lt_irrefl)
      set.increasing other.increasing
  cases set
  cases other
  cases hlist
  rfl

/-- Two lists of names make **one set** if they have the same members. -/
theorem ofList_eq_iff {names others : List String} :
    ofList names = ofList others ↔ ∀ name, name ∈ names ↔ name ∈ others := by
  simp only [ext_iff_contains, contains_ofList_iff]

/-- The set of the members of a set is this set. -/
theorem ofList_toList (set : NameSet) : ofList set.toList = set := by
  refine ext_iff_contains.mpr fun name => ?_
  rw [contains_ofList_iff, contains, List.contains_iff_mem]

end NameSet

end LogFilter
