import LogFilter.Settings.Basic
import LogFilter.Settings.Conversion

/-!
# Decoding Settings

The settings are taken from a tree. What is not set has its default, section by section and
value by value, and what has no meaning is a fault. A section may also be a list of its values
in their order.

## Main definitions

* `Tree.part?`: what is set for one value of a section.
* `Settings.ofTree`: all settings.
-/

namespace LogFilter

namespace Settings

/-- **What is set** for the value with a name and a number in a section, and at which place. -/
def Tree.part? (tree : Tree) (name : String) (index : Nat) : Option (Tree × Place) :=
  match tree with
  | .table members _ => (members.lookup name).map fun value => (value, .member name)
  | .list items _ => items[index]?.map fun value => (value, .item index)
  | .atom _ _ => none

/-- How a setting is taken from what is set for a key. -/
abbrev Taker (α : Type) := Tree → Key → Except Fault α

/-- A setting that may be absent as well. -/
def optionally {α : Type} (taker : Taker α) : Taker (Option α)
  | .atom .null _, _ => .ok none
  | tree, key => (taker tree key).map some

/-- A setting that is one of a few names, given by the name or by a table with this one
member. -/
def oneOf {α : Type} (choice : Choice) (values : List (String × α)) : Taker α := fun tree key =>
  let name? := match tree with
    | .atom (.text name) _ | .table [(name, _)] _ => some name
    | _ => none
  match name? with
  | none => .error (.noName choice key)
  | some name =>
      match values.lookup name with
      | some value => .ok value
      | none => .error (.unknownName choice name key)

/-- The value of a section with a name and a number, or its default. -/
def setting {α : Type} (part : SectionName) (tree : Tree) (name : String) (index : Nat)
    (taker : Taker α) (default : α) : Except Fault α :=
  match tree.part? name index with
  | some (value, place) => taker value ⟨part, place⟩
  | none => .ok default

/-- The dialects by their names. -/
def dialectNames : List (String × Sql.Dialect) :=
  [.postgres, .sqlite].map fun (dialect : Sql.Dialect) => (dialect.name, dialect)

/-- What may become of unknown fields, by name. -/
def unknownFieldsNames : List (String × UnknownFields) :=
  [.tag, .reject].map fun (policy : UnknownFields) => (policy.name, policy)

/-- How filters are compiled. -/
def compilerOf (tree : Tree) : Except Fault CompilerSettings := do
  let default : CompilerSettings := {}
  let dialect ←
    setting .compiler tree "dialect" 0 (oneOf .dialect dialectNames) default.dialect
  let unknownFields ←
    setting .compiler tree "unknown_fields" 1 (oneOf .unknownFields unknownFieldsNames)
      default.unknownFields
  let escapeLikeWildcards ←
    setting .compiler tree "escape_like_wildcards" 2 Kind.boolean.take
      default.escapeLikeWildcards
  let successStatus ←
    setting .compiler tree "success_status" 3 (Kind.integer .signed).take default.successStatus
  return { dialect, unknownFields, escapeLikeWildcards, successStatus }

/-- Where the store is kept. -/
def storeOf (tree : Tree) : Except Fault StoreSettings := do
  let default : StoreSettings := {}
  let path ← setting .store tree "path" 0 (optionally Kind.text.take) default.path
  return { path }

/-- How requests are served. -/
def serverOf (tree : Tree) : Except Fault ServerSettings := do
  let default : ServerSettings := {}
  let bind ← setting .server tree "bind" 0 Kind.text.take default.bind
  let maxPageSize ←
    setting .server tree "max_page_size" 1 (Kind.integer .unsigned).take default.maxPageSize
  return { bind, maxPageSize := maxPageSize.toNat }

/-- What is logged. -/
def logOf (tree : Tree) : Except Fault LogSettings := do
  let default : LogSettings := {}
  let filter ← setting .log tree "filter" 0 Kind.text.take default.filter
  return { filter }

/-- A section, or its default. -/
def sectionOf {α : Type} (part : SectionName) (decode : Tree → Except Fault α) (default : α)
    (members : List (String × Tree)) : Except Fault α :=
  match members.lookup part.key with
  | none => .ok default
  | some (.atom value _) => .error (.sectionWithoutTable value part)
  | some tree => decode tree

/-- **All settings**, from the members of the outermost table. -/
def ofMembers (members : List (String × Tree)) : Except Fault Settings := do
  let compiler ← sectionOf .compiler compilerOf {} members
  let store ← sectionOf .store storeOf {} members
  let server ← sectionOf .server serverOf {} members
  let log ← sectionOf .log logOf {} members
  return { compiler, store, server, log }

end Settings

end LogFilter
