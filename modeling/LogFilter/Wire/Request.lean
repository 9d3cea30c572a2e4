import LogFilter.Timestamp.Reader
import LogFilter.Wire.Filter
import LogFilter.Wire.Report

/-!
# Wire Forms of Requests

What the bodies of requests hold, and how they are given as JSON.

## Main definitions

* `FilterRequest`: filters, a selection and a page, all of which may be absent.
* `UpdateRequest`: filters and the tags to assign, both of which must be there.
* `ReportRequest`: a call to record; a time that is absent is the time of the request.
-/

namespace LogFilter

open Json

/-- A **request for records**. -/
structure FilterRequest where
  filters : List Filter := []
  selection : Option Selection := none
  limit : Option Nat := none
  offset : Option Nat := none

namespace FilterRequest

/-- The fields of a request for records. -/
def fields : List (RecordField FilterRequest) :=
  [⟨"filters", fun d part => do
      return { part with filters := ← decodeList Filter.decode d }⟩,
    ⟨"selection", fun d part => do
      return { part with selection := ← decodeOptional Selection.decode d }⟩,
    ⟨"limit", fun d part => do
      return { part with limit := ← decodeOptional decodeUnsigned d }⟩,
    ⟨"offset", fun d part => do
      return { part with offset := ← decodeOptional decodeUnsigned d }⟩]

/-- Reads a request for records. -/
def decode : Decoder FilterRequest := decodeRecord fields {} some

end FilterRequest

/-- The tag values of a map of JSON values that lies inside `outer` arrays and objects. -/
def decodeTagValues (outer : Nat) : Decoder (NameMap (Option String)) := fun d => do
  let values ← decodeMap (ofDocument (maxDepth - outer - 1)) d
  return values.map tagValue

/-- A **request to update tags**: a tag without a value is removed. -/
structure UpdateRequest where
  filters : List Filter
  tags : NameMap (Option String)

namespace UpdateRequest

/-- What has been read of a request to update tags. -/
structure Part where
  filters : Option (List Filter) := none
  tags : Option (NameMap (Option String)) := none

/-- The fields of a request to update tags. -/
def fields : List (RecordField Part) :=
  [⟨"filters", fun d part => do
      return { part with filters := some (← decodeList Filter.decode d) }⟩,
    ⟨"tags", fun d part => do return { part with tags := some (← decodeTagValues 1 d) }⟩]

/-- A request to update tags, once both parts have been read. -/
def Part.finish (part : Part) : Option UpdateRequest := do
  return ⟨← part.filters, ← part.tags⟩

/-- Reads a request to update tags. -/
def decode : Decoder UpdateRequest := decodeRecord fields {} Part.finish

end UpdateRequest

/-- A **request to record a call**. -/
structure ReportRequest where
  id : String
  model : Option String
  requestedAt : Option Timestamp
  response : Option ResponseReport
  tags : NameMap (Option String)

namespace ReportRequest

/-- What has been read of a request to record a call. -/
structure Part where
  id : Option String := none
  model : Option String := none
  requestedAt : Option Timestamp := none
  response : Option ResponseReport := none
  tags : NameMap (Option String) := .empty

/-- The fields of a request to record a call. -/
def fields : List (RecordField Part) :=
  [⟨"id", fun d part => do return { part with id := some (← decodeText d) }⟩,
    ⟨"model", fun d part => do return { part with model := ← decodeOptional decodeText d }⟩,
    ⟨"requestedAt", fun d part => do
      return { part with requestedAt := some (← Timestamp.decode d) }⟩,
    ⟨"response", fun d part => do
      return { part with response := ← decodeOptional (ResponseReport.decode 1) d }⟩,
    ⟨"tags", fun d part => do return { part with tags := ← decodeTagValues 1 d }⟩]

/-- A request to record a call, once its id has been read. -/
def Part.finish (part : Part) : Option ReportRequest := do
  return ⟨← part.id, part.model, part.requestedAt, part.response, part.tags⟩

/-- Reads a request to record a call. -/
def decode : Decoder ReportRequest := decodeRecord fields {} Part.finish

/-- The call to record; `now` is the time of the request. -/
def toCall (request : ReportRequest) (now : Timestamp) : CallReport where
  id := request.id
  model := request.model
  requestedAt := request.requestedAt.getD now
  response := request.response
  tags := request.tags

end ReportRequest

end LogFilter
