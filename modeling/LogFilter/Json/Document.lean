import LogFilter.Json.Basic
import LogFilter.Json.Token

/-!
# Documents

A document is the tree of a JSON text, built before it is known what the text is wanted for.
A text that cannot be read to its end still has a document: the fault stands in it at the
place where it was met. A reader that walks the tree in order therefore meets the problems of
a text in the order of the text, whether they lie in its form or in its content.

## Main definitions

* `Document`: the tree of a text.
* `Document.ofTokens`: the document that opens a list of tokens, and the tokens after it.
* `Document.ofText`: the document that begins a text.
* `Document.ofJson`: the document of a value that has been read before.
-/

namespace LogFilter.Json

/-- A **document**. An array or object that the text breaks off inside carries the fault; a
fault that stands where a value or a name should begin is a document by itself. A number beyond
all doubles has no value, and a string whose surrogates do not pair up has no content. -/
inductive Document
  | null
  | boolean (value : Bool)
  | number (value : Option Number)
  | string (content : Option String)
  | array (items : List Document) (fault : Option Fault)
  | object (members : List (Document × Document)) (fault : Option Fault)
  | bad (fault : Fault)

namespace Document

/-- A place **where a value is awaited** inside an array or an object, with what the array or
object holds so far, last one first. -/
inductive Frame
  | item (done : List Document)
  | member (done : List (Document × Document)) (name : Document)

/-- What the text has come to, inside the innermost array or object. -/
inductive Progress
  /-- A value must follow. -/
  | value
  /-- An array has been opened. -/
  | firstItem
  /-- An item has been read. -/
  | nextItem (done : List Document)
  /-- An object has been opened. -/
  | firstName
  /-- A comma in an object has been read. -/
  | name (done : List (Document × Document))
  /-- A name has been read. -/
  | colon (done : List (Document × Document)) (name : Document)
  /-- A member has been read. -/
  | nextMember (done : List (Document × Document))

/-- The document that a text breaks off inside: `inner` stands last in each frame. -/
def cut (fault : Fault) (inner : Document) : List Frame → Document
  | [] => inner
  | .item done :: rest => cut fault (.array (inner :: done).reverse (some fault)) rest
  | .member done name :: rest =>
      cut fault (.object ((name, inner) :: done).reverse (some fault)) rest

/-- The document of a text that a fault breaks off between two tokens. -/
def breakOff (fault : Fault) (progress : Progress) (frames : List Frame) : Document :=
  match progress with
  | .value => cut fault (.bad fault) frames
  | .firstItem => cut fault (.bad fault) (.item [] :: frames)
  | .nextItem done => cut fault (.array done.reverse (some fault)) frames
  | .firstName => cut fault (.bad fault) (.member [] (.bad fault) :: frames)
  | .name done => cut fault (.bad fault) (.member done (.bad fault) :: frames)
  | .colon done name => cut fault (.bad fault) (.member done name :: frames)
  | .nextMember done => cut fault (.object done.reverse (some fault)) frames

/-- What a token leads to. -/
inductive Outcome
  | goOn (progress : Progress) (frames : List Frame)
  | finished (document : Document)

/-- A value is complete. -/
def deliver (value : Document) : List Frame → Outcome
  | [] => .finished value
  | .item done :: rest => .goOn (.nextItem (value :: done)) rest
  | .member done name :: rest => .goOn (.nextMember ((name, value) :: done)) rest

/-- A token where a value must begin. -/
def beginValue (frames : List Frame) : Token → Outcome
  | .null => deliver .null frames
  | .boolean value => deliver (.boolean value) frames
  | .number text => deliver (.number (Number.ofText text)) frames
  | .string content => deliver (.string content) frames
  | .beginArray => .goOn .firstItem frames
  | .beginObject => .goOn .firstName frames
  | .bad fault => .finished (cut fault (.bad fault) frames)
  | .endArray | .endObject | .comma | .colon => .finished (cut .stray (.bad .stray) frames)

/-- What stands in the place of a name that is no string. -/
def misplaced : Token → Document
  | .null => .null
  | .boolean value => .boolean value
  | .number text => .number (Number.ofText text)
  | .string content => .string content
  | .beginArray => .array [] (some .stray)
  | .beginObject => .object [] (some .stray)
  | .bad fault => .bad fault
  | .endArray | .endObject | .comma | .colon => .bad .stray

/-- A token where a name must stand: only a string can be one, and anything else is stray. -/
def beginName (frames : List Frame) (done : List (Document × Document)) (token : Token) :
    Outcome :=
  match token with
  | .string content => .goOn (.colon done (.string content)) frames
  | token =>
      let fault := match token with
        | .bad (.string broken atEnd) => .string broken atEnd
        | _ => .stray
      .finished (cut fault (.bad fault) (.member done (misplaced token) :: frames))

/-- What a token leads to, as far as the text has come. -/
def advance (frames : List Frame) : Progress → Token → Outcome
  | .value, token => beginValue frames token
  | .firstItem, .endArray => deliver (.array [] none) frames
  | .firstItem, token => beginValue (.item [] :: frames) token
  | .nextItem done, .comma => .goOn .value (.item done :: frames)
  | .nextItem done, .endArray => deliver (.array done.reverse none) frames
  | .firstName, .endObject => deliver (.object [] none) frames
  | .firstName, token => beginName frames [] token
  | .name done, token => beginName frames done token
  | .colon done name, .colon => .goOn .value (.member done name :: frames)
  | .nextMember done, .comma => .goOn (.name done) frames
  | .nextMember done, .endObject => deliver (.object done.reverse none) frames
  | progress, _ => .finished (breakOff .stray progress frames)

/-- Builds on with a list of tokens, until the outermost value is complete. -/
def build (progress : Progress) (frames : List Frame) : List Token → Document × List Token
  | [] => (breakOff .ended progress frames, [])
  | token :: rest =>
      match advance frames progress token with
      | .goOn progress frames => build progress frames rest
      | .finished document => (document, rest)

/-- The **document** that a list of tokens begins with, and the tokens after it. -/
def ofTokens (tokens : List Token) : Document × List Token :=
  build .value [] tokens

/-- The document at the beginning of a text, and the tokens after it. -/
def ofText (text : String) : Document × List Token :=
  ofTokens (tokens text)

mutual

/-- The **document of a value** that has been read before. -/
def ofJson : Json → Document
  | .null => .null
  | .boolean value => .boolean value
  | .number value => .number (some value)
  | .string content => .string (some content)
  | .array items => .array (ofItems items) none
  | .object members => .object (ofMembers members) none

/-- The documents of items. -/
def ofItems : List Json → List Document
  | [] => []
  | item :: rest => ofJson item :: ofItems rest

/-- The documents of the names and values of members. -/
def ofMembers : List (String × Json) → List (Document × Document)
  | [] => []
  | (name, value) :: rest => (.string (some name), ofJson value) :: ofMembers rest

end

end Document

end LogFilter.Json
