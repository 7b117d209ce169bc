import PipeAssist.Settings.Basic
import PipeAssist.Toml.Decode

/-!
# Settings documents

Settings are written as a TOML document with a table for every section. Missing sections and fields
have their default values; those of other names are ignored.
-/

set_option autoImplicit false

namespace PipeAssist.Settings

open Toml

/-- The section on completion. -/
def decodeCompletion (value : Value) : Option Completion := do
  match ← Decode.record false ["max_proposals", "include_deprecated"] value with
  | [maxProposals, withDeprecated] =>
    some
      { maxProposals := ← Decode.withDefault Decode.size 0 maxProposals
        withDeprecated := ← Decode.withDefault Decode.flag false withDeprecated }
  | _ => none

/-- The section on the catalog. -/
def decodeCatalog (value : Value) : Option CatalogSource := do
  match ← Decode.record false ["path"] value with
  | [path] => some { path := ← Decode.optional Decode.prose path }
  | _ => none

/-- The section on the output. -/
def decodeDisplay (value : Value) : Option Display := do
  match ← Decode.record false ["format", "color_output"] value with
  | [format, colors] =>
    some
      { format := ← Decode.withDefault (Decode.choice Report.Format.ofName?) .text format
        colors := ← Decode.withDefault Decode.flag true colors }
  | _ => none

/-- The section on the history. -/
def decodeHistory (home : String) (value : Value) : Option History := do
  match ← Decode.record false ["max_size", "file_path", "persist"] value with
  | [maxSize, filePath, persist] =>
    some
      { maxSize := ← Decode.withDefault Decode.size 1000 maxSize
        filePath := ← Decode.withDefault Decode.prose (historyPath home) filePath
        persist := ← Decode.withDefault Decode.flag true persist }
  | _ => none

/-- The section on the log. -/
def decodeLogging (value : Value) : Option Logging := do
  match ← Decode.record false ["level", "timestamps"] value with
  | [level, timestamps] =>
    some
      { level := ← Decode.withDefault (Decode.choice LogLevel.ofName?) .warn level
        timestamps := ← Decode.withDefault Decode.flag false timestamps }
  | _ => none

/-- All sections. -/
def decode (home : String) (value : Value) : Option Settings := do
  let sections := ["completion", "catalog", "display", "history", "logging"]
  match ← Decode.record false sections value with
  | [completion, catalog, display, history, logging] =>
    let fresh := initial home
    some
      { completion := ← Decode.withDefault decodeCompletion fresh.completion completion
        catalog := ← Decode.withDefault decodeCatalog fresh.catalog catalog
        display := ← Decode.withDefault decodeDisplay fresh.display display
        history := ← Decode.withDefault (decodeHistory home) fresh.history history
        logging := ← Decode.withDefault decodeLogging fresh.logging logging }
  | _ => none

/-- The settings of a document. -/
def ofDocument (home : String) (document : Text) : Except SettingsProblem Settings :=
  match Toml.parse? document with
  | none => .error (.invalidFormat "not a TOML document")
  | some value =>
    match decode home value with
    | none => .error (.invalidFormat "a section or field has a wrong type")
    | some settings => .ok settings

/-- The settings of the document under a path. Without a path the one in the home directory is used,
if it is there. -/
def load {m : Type → Type} [Monad m] (read : FileReader m) (home : String) (path? : Option String) :
    m (Except Problem Settings) := do
  let path := path?.getD (defaultPath home)
  match ← read path with
  | .missing =>
    match path? with
    | some path => return .error (.settings (.fileNotFound path))
    | none => return .ok (initial home)
  | .unreadable reason => return .error (.inputOutput reason)
  | .text document => return (ofDocument home document).mapError .settings

end PipeAssist.Settings
