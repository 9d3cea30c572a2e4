import LogFilter.Compile

/-!
# Settings

What can be set, in sections, and the value that each setting has when nobody sets it.

## Main definitions

* `CompilerSettings`, `StoreSettings`, `ServerSettings`, `LogSettings`: the sections.
* `Settings`: all of them.
* `CompilerSettings.options`: the options of one compilation.
-/

namespace LogFilter

open Sql

/-- How filters are **compiled**. -/
structure CompilerSettings where
  dialect : Dialect := .sqlite
  unknownFields : UnknownFields := .tag
  escapeLikeWildcards : Bool := false
  successStatus : Int := 200
  deriving DecidableEq, Repr

/-- Where the **store** is kept: in a file, or in memory. -/
structure StoreSettings where
  path : Option String := none
  deriving DecidableEq, Repr

/-- How requests are **served**. -/
structure ServerSettings where
  bind : String := "127.0.0.1:8080"
  maxPageSize : Nat := 1000
  deriving DecidableEq, Repr

/-- What is **logged**. -/
structure LogSettings where
  filter : String := "info"
  deriving DecidableEq, Repr

/-- All **settings**. -/
structure Settings where
  compiler : CompilerSettings := {}
  store : StoreSettings := {}
  server : ServerSettings := {}
  log : LogSettings := {}
  deriving DecidableEq, Repr

/-- The options of one compilation; which tags are known is no setting. -/
def CompilerSettings.options (settings : CompilerSettings) (knownTags : NameSet) : Options where
  unknownFields := settings.unknownFields
  knownTags := knownTags
  escapeLikeWildcards := settings.escapeLikeWildcards
  successStatus := settings.successStatus

end LogFilter
