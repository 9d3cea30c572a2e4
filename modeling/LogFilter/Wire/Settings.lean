import LogFilter.Settings.Basic
import LogFilter.Wire.Filter

/-!
# Wire Forms of Settings

How settings are given as JSON, when they are no file of their own: section by section, and
value by value. Whatever is left out has its default, and no value is taken for another kind.

## Main definitions

* `Settings.decode`: all settings, from the decoders of their sections.
-/

namespace LogFilter

open Json

/-- Reads how filters are **compiled**. -/
def CompilerSettings.decode : Decoder CompilerSettings :=
  decodeRecord
    [⟨"dialect", fun d part => do return { part with dialect := ← Sql.Dialect.decode d }⟩,
      ⟨"unknown_fields", fun d part => do
        return { part with unknownFields := ← UnknownFields.decode d }⟩,
      ⟨"escape_like_wildcards", fun d part => do
        return { part with escapeLikeWildcards := ← decodeBoolean d }⟩,
      ⟨"success_status", fun d part => do
        return { part with successStatus := ← decodeSigned d }⟩]
    ({} : CompilerSettings) some

/-- Reads where the **store** is kept. -/
def StoreSettings.decode : Decoder StoreSettings :=
  decodeRecord
    [⟨"path", fun d part => do return { part with path := ← decodeOptional decodeText d }⟩]
    ({} : StoreSettings) some

/-- Reads how requests are **served**. -/
def ServerSettings.decode : Decoder ServerSettings :=
  decodeRecord
    [⟨"bind", fun d part => do return { part with bind := ← decodeText d }⟩,
      ⟨"max_page_size", fun d part => do
        return { part with maxPageSize := ← decodeUnsigned d }⟩]
    ({} : ServerSettings) some

/-- Reads what is **logged**. -/
def LogSettings.decode : Decoder LogSettings :=
  decodeRecord
    [⟨"filter", fun d part => do return { part with filter := ← decodeText d }⟩]
    ({} : LogSettings) some

/-- Reads **settings**. -/
def Settings.decode : Decoder Settings :=
  decodeRecord
    [⟨"compiler", fun d part => do
        return { part with compiler := ← CompilerSettings.decode d }⟩,
      ⟨"store", fun d part => do return { part with store := ← StoreSettings.decode d }⟩,
      ⟨"server", fun d part => do return { part with server := ← ServerSettings.decode d }⟩,
      ⟨"log", fun d part => do return { part with log := ← LogSettings.decode d }⟩]
    ({} : Settings) some

end LogFilter
