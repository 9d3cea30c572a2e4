import LogFilter.Json.Decode
import LogFilter.Store.Operations

/-!
# Wire Forms of Reports

How the response of a logged call is given as JSON, and how tag values are taken from it.

## Main definitions

* `ResponseReport.decode`: a response, of which only the request payload must be there.
* `tagValue`: the tag value that a JSON value stands for.
-/

namespace LogFilter

open Json

namespace ResponseReport

/-- What has been read of a response. -/
structure Part where
  reqPayload : Option Json := none
  respPayload : Option Json := none
  statusCode : Option Int := none
  errorMessage : Option String := none

/-- The fields of a response, whose payloads may nest as deeply as `room`. -/
def fields (room : Nat) : List (RecordField Part) :=
  [⟨"reqPayload", fun d part => do
      return { part with reqPayload := some (← ofDocument room d) }⟩,
    ⟨"respPayload", fun d part => do
      return { part with respPayload := ← decodeOptional (ofDocument room) d }⟩,
    ⟨"statusCode", fun d part => do
      return { part with statusCode := ← decodeOptional decodeSigned d }⟩,
    ⟨"errorMessage", fun d part => do
      return { part with errorMessage := ← decodeOptional decodeText d }⟩]

/-- A response, once its request payload has been read. -/
def Part.finish (part : Part) : Option ResponseReport := do
  return ⟨← part.reqPayload, part.respPayload, part.statusCode, part.errorMessage⟩

/-- Reads a **response** that lies inside `outer` arrays and objects. -/
def decode (outer : Nat) : Decoder ResponseReport :=
  decodeRecord (fields (maxDepth - outer - 1)) {} Part.finish

end ResponseReport

/-- The **tag value** that a JSON value stands for: none for `null`, a string for itself, and
any other value for its compact text. -/
def tagValue : Json → Option String
  | .null => none
  | .string content => some content
  | other => some other.compact

end LogFilter
