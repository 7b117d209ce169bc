import PipeAssist.Files
import PipeAssist.Problem
import PipeAssist.Report.Basic

/-!
# Settings

What can be configured, with its default values, and the conditions that settings have to meet.
-/

set_option autoImplicit false

namespace PipeAssist

/-- How much is logged. -/
inductive LogLevel where
  | error
  | warn
  | info
  | debug
  | trace
deriving DecidableEq, Repr

namespace LogLevel

/-- The name of a level. -/
def name : LogLevel → String
  | .error => "error"
  | .warn => "warn"
  | .info => "info"
  | .debug => "debug"
  | .trace => "trace"

/-- The level of a name. -/
def ofName? (name : String) : Option LogLevel :=
  [LogLevel.error, .warn, .info, .debug, .trace].find? fun level => level.name = name

end LogLevel

namespace Settings

/-- Settings of completion. -/
structure Completion where
  /-- The greatest number of proposals, or zero for all. -/
  maxProposals : Nat := 0
  withDeprecated : Bool := false
deriving DecidableEq, Repr

/-- Where the catalog comes from. -/
structure CatalogSource where
  /-- The path of a catalog document; without one the built-in catalog is used. -/
  path : Option String := none
deriving DecidableEq, Repr

/-- Settings of the output. -/
structure Display where
  format : Report.Format := .text
  colors : Bool := true
deriving DecidableEq, Repr

/-- Settings of the history of the shell. -/
structure History where
  maxSize : Nat := 1000
  filePath : String
  persist : Bool := true
deriving DecidableEq, Repr

/-- Settings of the log. -/
structure Logging where
  level : LogLevel := .warn
  timestamps : Bool := false
deriving DecidableEq, Repr

end Settings

/-- All settings. -/
structure Settings where
  completion : Settings.Completion := {}
  catalog : Settings.CatalogSource := {}
  display : Settings.Display := {}
  history : Settings.History
  logging : Settings.Logging := {}
deriving DecidableEq, Repr

namespace Settings

/-- The history file below a home directory. -/
def historyPath (home : String) : String := joinPath home ".pipeline-complete_history"

/-- The settings file below a home directory. -/
def defaultPath (home : String) : String :=
  joinPath (joinPath home ".pipeline-complete") "config.toml"

/-- The settings when nothing is configured. -/
def initial (home : String) : Settings := { history := { filePath := historyPath home } }

/-- The first condition that settings fail to meet. -/
def problem? (settings : Settings) : Option SettingsProblem :=
  if settings.history.maxSize = 0 then some (.invalidValue "history.max_size" "0")
  else if settings.history.filePath = "" then some (.invalidValue "history.file_path" "")
  else if settings.catalog.path = some "" then some (.invalidValue "catalog.path" "")
  else none

end Settings

end PipeAssist
