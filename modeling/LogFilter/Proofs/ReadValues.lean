import LogFilter.Proofs.CompactText
import LogFilter.Proofs.NamedEntries

/-!
# Values as They Are Kept

A value as it is written has members in any order and may have names twice. The reader keeps the
last member of each name, in order of the names, and refuses a value that is nested too deeply,
also where the deep part would not be kept. A value whose names increase strictly is kept as it is.

## Main definitions

* `depth`: how deeply arrays and objects are nested in a value.
* `kept`: what the reader keeps of a value.

## Main results

* `ofDocument_ofJson`: a value that is not nested too deeply is read as what is kept of it.
* `Formed.kept_eq`: a value whose names increase strictly is kept as it is.
* `Formed.readWhole_compact`: so its compact text reads back, if none of its numbers is a double.
-/

namespace LogFilter.Json

mutual

/-- **How deeply** arrays and objects are nested in a value. -/
def depth : Json → Nat
  | .array items => depthItems items + 1
  | .object members => depthMembers members + 1
  | _ => 0

/-- The depth of the deepest one of some items. -/
def depthItems : List Json → Nat
  | [] => 0
  | item :: rest => max (depth item) (depthItems rest)

/-- The depth of the deepest value of some members. -/
def depthMembers : List (String × Json) → Nat
  | [] => 0
  | (_, value) :: rest => max (depth value) (depthMembers rest)

end

mutual

/-- What is **kept of a value** as it is written: the last member of each name, in order of the
names. -/
def kept : Json → Json
  | .null => .null
  | .boolean value => .boolean value
  | .number value => .number value
  | .string content => .string content
  | .array items => .array (keptItems items)
  | .object members => .object (lastByName (keptMembers members))

/-- What is kept of items. -/
def keptItems : List Json → List Json
  | [] => []
  | item :: rest => kept item :: keptItems rest

/-- What is kept of the values of members. -/
def keptMembers : List (String × Json) → List (String × Json)
  | [] => []
  | (name, value) :: rest => (name, kept value) :: keptMembers rest

end

/-- What is kept of items is kept of each of them. -/
theorem keptItems_eq_map (items : List Json) : keptItems items = items.map kept := by
  induction items with
  | nil => rfl
  | cons item rest ih => rw [keptItems, List.map_cons, ih]

/-- What is kept of members is kept of each of their values. -/
theorem keptMembers_eq_map (members : List (String × Json)) :
    keptMembers members = members.map fun member => (member.1, kept member.2) := by
  induction members with
  | nil => rfl
  | cons member rest ih => rw [keptMembers, List.map_cons, ih]

mutual

/-- **A value is read as what is kept of it**, if there is room for it. -/
theorem ofDocument_ofJson (room : Nat) (value : Json) :
    ofDocument room (Document.ofJson value) =
      if value.depth ≤ room then .ok value.kept else .error .malformed := by
  match value with
  | .null => rfl
  | .boolean _ => rfl
  | .number _ => rfl
  | .string _ => rfl
  | .array items =>
    match room with
    | 0 => rfl
    | room + 1 =>
      rw [Document.ofJson, ofDocument, ofItems_ofItems room items, depth]
      by_cases hdepth : depthItems items ≤ room
      · rw [if_pos hdepth, if_pos (Nat.succ_le_succ hdepth)]
        rfl
      · rw [if_neg hdepth, if_neg fun h => hdepth (Nat.le_of_succ_le_succ h)]
        rfl
  | .object members =>
    match room with
    | 0 => rfl
    | room + 1 =>
      rw [Document.ofJson, ofDocument, ofMembers_ofMembers room members, depth]
      by_cases hdepth : depthMembers members ≤ room
      · rw [if_pos hdepth, if_pos (Nat.succ_le_succ hdepth)]
        rfl
      · rw [if_neg hdepth, if_neg fun h => hdepth (Nat.le_of_succ_le_succ h)]
        rfl

/-- So are items. -/
theorem ofItems_ofItems (room : Nat) (items : List Json) :
    ofItems room (Document.ofItems items) =
      if depthItems items ≤ room then .ok (keptItems items) else .error .malformed := by
  match items with
  | [] => rfl
  | item :: rest =>
    rw [Document.ofItems, ofItems, ofDocument_ofJson room item, ofItems_ofItems room rest,
      depthItems]
    by_cases hitem : item.depth ≤ room <;> by_cases hrest : depthItems rest ≤ room <;>
      simp [hitem, hrest, keptItems, bind, Except.bind, pure, Except.pure]

/-- So are members. -/
theorem ofMembers_ofMembers (room : Nat) (members : List (String × Json)) :
    ofMembers room (Document.ofMembers members) =
      if depthMembers members ≤ room then .ok (keptMembers members) else .error .malformed := by
  match members with
  | [] => rfl
  | (name, value) :: rest =>
    rw [Document.ofMembers, ofMembers, ofDocument_ofJson room value, ofMembers_ofMembers room rest,
      depthMembers]
    by_cases hvalue : value.depth ≤ room <;> by_cases hrest : depthMembers rest ≤ room <;>
      simp [hvalue, hrest, keptMembers, memberName, bind, Except.bind, pure, Except.pure]

end

/-- **A text is read as what is kept of the value that is written**, if this is not nested too
deeply. -/
theorem readWhole_ofDocument {value : Json} {text : String} (h : IsText value text) {room : Nat}
    (hdepth : value.depth ≤ room) : readWhole (ofDocument room) text = .ok value.kept := by
  rw [readWhole_of_isText h, readValue, ofDocument_ofJson, if_pos hdepth]

/-- **A value whose names increase strictly is kept as it is.** -/
theorem Formed.kept_eq {allowed : Number → Prop} {value : Json} (h : value.Formed allowed) :
    value.kept = value := by
  induction h with
  | null => rfl
  | boolean value => rfl
  | number _ => rfl
  | string content => rfl
  | @array items _ ih =>
    have hitems : items.map kept = items.map id := List.map_congr_left ih
    rw [kept, keptItems_eq_map, hitems, List.map_id]
  | @object members hnames _ ih =>
    have hmembers : (members.map fun member => (member.1, kept member.2)) = members.map id :=
      List.map_congr_left fun member hmem => Prod.ext rfl (ih member hmem)
    rw [kept, keptMembers_eq_map, hmembers, List.map_id, lastByName_of_increasing hnames]

/-- **The compact text of a value without doubles reads back as the value**, if it is not nested
too deeply. -/
theorem Formed.readWhole_compact {value : Json} (h : value.Formed Number.Whole) {room : Nat}
    (hdepth : value.depth ≤ room) : readWhole (ofDocument room) value.compact = .ok value := by
  rw [readWhole_ofDocument (isText_compact h) hdepth, h.kept_eq]

end LogFilter.Json
