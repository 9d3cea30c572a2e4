import LogFilter.Text.Parts

/-!
# Routes

Which routes there are, which path leads to which, and the scope that a path names. A path is
matched as it is written; only the scope in it is decoded.

## Main definitions

* `Route`: the routes, and `Route.method`: the method that each answers.
* `Target.ofUri`: the path of a request target.
* `Route.find?`: the route of a path, and the scope as written.
* `percentDecode?`: the text that an encoded part of a path stands for.
-/

namespace LogFilter.Http

/-- A **route**. -/
inductive Route
  | queryLogs
  | countLogs
  | explainLogs
  | updateTags
  | report
  | tagNames
  | queryEntries
  deriving DecidableEq, Repr

namespace Route

/-- The method that a route answers. -/
def method : Route → String
  | tagNames => "GET"
  | _ => "POST"

/-- The name of the scope in a route's path. -/
def scopeName : Route → String
  | queryEntries => "dataset_id"
  | _ => "project_id"

/-- The route of a path in parts, and the scope as written. -/
def ofParts? : List String → Option (Route × String)
  | ["", "v1", "projects", scope, "logs", "query"] => some (queryLogs, scope)
  | ["", "v1", "projects", scope, "logs", "count"] => some (countLogs, scope)
  | ["", "v1", "projects", scope, "logs", "explain"] => some (explainLogs, scope)
  | ["", "v1", "projects", scope, "logs", "update-tags"] => some (updateTags, scope)
  | ["", "v1", "projects", scope, "report"] => some (report, scope)
  | ["", "v1", "projects", scope, "tags"] => some (tagNames, scope)
  | ["", "v1", "datasets", scope, "entries", "query"] => some (queryEntries, scope)
  | _ => none

end Route

/-- What follows the authority of a target that has one: after `://`, from the next slash on. -/
def afterAuthority : List Char → List Char
  | ':' :: '/' :: '/' :: rest => rest.dropWhile fun c => c ≠ '/'
  | [] => []
  | _ :: rest => afterAuthority rest

/-- The **path** of a request target, without authority, query and fragment. -/
def pathOf (target : String) : List Char :=
  let whole := target.toList.takeWhile fun c => c ≠ '?' && c ≠ '#'
  match whole with
  | '/' :: _ => whole
  | _ => afterAuthority whole

/-- The **route of a path**, and the scope as written. -/
def Route.find? (path : List Char) : Option (Route × String) :=
  Route.ofParts? ((Text.splitAt '/' path).map String.ofList)

/-- The value of a byte that is a hexadecimal digit. -/
def hexByte? (b : UInt8) : Option UInt8 :=
  if 48 ≤ b ∧ b ≤ 57 then some (b - 48)
  else if 65 ≤ b ∧ b ≤ 70 then some (b - 55)
  else if 97 ≤ b ∧ b ≤ 102 then some (b - 87)
  else none

/-- Replaces every percent sign with two hexadecimal digits after it by the byte that they
give; any other percent sign stays. -/
def percentDecode : List UInt8 → List UInt8
  | 37 :: high :: low :: rest =>
      match hexByte? high, hexByte? low with
      | some high, some low => (high * 16 + low) :: percentDecode rest
      | _, _ => 37 :: percentDecode (high :: low :: rest)
  | byte :: rest => byte :: percentDecode rest
  | [] => []

/-- The **text that an encoded part of a path stands for**, if its bytes are a text. -/
def percentDecode? (text : String) : Option String :=
  String.fromUTF8? ⟨(percentDecode text.toUTF8.toList).toArray⟩

end LogFilter.Http
