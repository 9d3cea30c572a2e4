import LogFilter.Compile
import LogFilter.Json.Decode

/-!
# Wire Forms of Filters and Selections

How filters, selections and the names of dialects and policies are given as JSON. A record is
an object, or an array of its fields in order; names are case-sensitive.

## Main definitions

* `Filter.decode`, `Filter.encode`: a filter, whose value may be absent.
* `Selection.decode`, `Selection.encode`: a selection, whose sets may be absent.
* `Dialect.decode`, `UnknownFields.decode`: values that go by a name.
-/

namespace LogFilter

open Json

namespace Filter

/-- What has been read of a filter. -/
structure Part where
  field : Option String := none
  comparator : Option String := none
  value : Option String := none

/-- The fields of a filter. -/
def fields : List (RecordField Part) :=
  [⟨"field", fun d part => do return { part with field := some (← decodeText d) }⟩,
    ⟨"comparator", fun d part => do return { part with comparator := some (← decodeText d) }⟩,
    ⟨"value", fun d part => do return { part with value := ← decodeOptional decodeText d }⟩]

/-- A filter, once its field and its comparator have been read. -/
def Part.finish (part : Part) : Option Filter := do
  return ⟨← part.field, ← part.comparator, part.value⟩

/-- Reads a **filter**. -/
def decode : Decoder Filter := decodeRecord fields {} Part.finish

/-- A filter as JSON. -/
def encode (filter : Filter) : Json :=
  .object
    [("comparator", .string filter.comparator),
      ("field", .string filter.field),
      ("value", (filter.value.map Json.string).getD .null)]

end Filter

namespace Selection

/-- What has been read of a selection. -/
structure Part where
  defaultToSelected : Option Bool := none
  selectedIds : NameSet := .empty
  deselectedIds : NameSet := .empty

/-- A set of names, given as an array in any order and with repetitions. -/
def decodeIds : Decoder NameSet := fun d => return .ofList (← decodeList decodeText d)

/-- The fields of a selection. -/
def fields : List (RecordField Part) :=
  [⟨"defaultToSelected", fun d part => do
      return { part with defaultToSelected := some (← decodeBoolean d) }⟩,
    ⟨"selectedIds", fun d part => do return { part with selectedIds := ← decodeIds d }⟩,
    ⟨"deselectedIds", fun d part => do return { part with deselectedIds := ← decodeIds d }⟩]

/-- A selection, once its default has been read. -/
def Part.finish (part : Part) : Option Selection := do
  return ⟨← part.defaultToSelected, part.selectedIds, part.deselectedIds⟩

/-- Reads a **selection**. -/
def decode : Decoder Selection := decodeRecord fields {} Part.finish

/-- A set of names as JSON. -/
def encodeIds (ids : NameSet) : Json := .array (ids.toList.map .string)

/-- A selection as JSON. -/
def encode (selection : Selection) : Json :=
  .object
    [("defaultToSelected", .boolean selection.defaultToSelected),
      ("deselectedIds", encodeIds selection.deselectedIds),
      ("selectedIds", encodeIds selection.selectedIds)]

end Selection

/-- Reads the name of a **dialect**. -/
def Sql.Dialect.decode : Decoder Sql.Dialect :=
  decodeName ([.postgres, .sqlite].map fun dialect => (dialect.name, dialect))

/-- Reads the name of a **policy** for unknown fields. -/
def UnknownFields.decode : Decoder UnknownFields :=
  decodeName ([.tag, .reject].map fun policy => (policy.name, policy))

/-- A bound value as JSON. -/
def Sql.Scalar.encode : Sql.Scalar → Json
  | .text content => .string content
  | .integer value => .integer value
  | .boolean flag => .boolean flag

end LogFilter
