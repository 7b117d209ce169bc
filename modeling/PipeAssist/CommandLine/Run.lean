import PipeAssist.Catalog.Builtin
import PipeAssist.Catalog.Document
import PipeAssist.CommandLine.Arguments
import PipeAssist.CommandLine.Script
import PipeAssist.Settings.Document
import PipeAssist.Shell.Script

/-!
# Running a command line

The settings come from their document, have to be valid, and are then overridden by the command line.
They determine the catalog, the engine over it and the form of the output. Files and standard input
are reached through arguments only.
-/

set_option autoImplicit false

namespace PipeAssist.CommandLine

/-- The settings with those that the command line gives. -/
def Given.override (given : Given) (settings : Settings) : Except SettingsProblem Settings := do
  let format ←
    match given.format with
    | none => .ok settings.display.format
    | some name =>
      match Report.Format.ofAnyCase? name with
      | some format => .ok format
      | none => .error (.invalidValue "format" name)
  let level :=
    if given.veryVerbose then .trace
    else if given.verbose then .debug
    else settings.logging.level
  return { settings with
    display := { format := format, colors := settings.display.colors && !given.noColor }
    catalog := { path := given.catalog <|> settings.catalog.path }
    logging := { settings.logging with level := level } }

variable {m : Type → Type} [Monad m]

/-- The settings for a command line. Those of the document have to be valid by themselves. -/
def Given.configure (given : Given) (read : FileReader m) (home : String) :
    ExceptT Problem m Settings := do
  let settings ← ExceptT.mk (Settings.load read home given.settings)
  match settings.problem? with
  | some problem => throw (.settings problem)
  | none => ExceptT.mk (pure ((given.override settings).mapError .settings))

end PipeAssist.CommandLine

namespace PipeAssist.Settings

variable {m : Type → Type} [Monad m]

/-- The form of the output. -/
def report (settings : Settings) : Report := ⟨settings.display.format, settings.display.colors⟩

/-- The engine over the configured catalog. -/
def engine (settings : Settings) (read : FileReader m) : ExceptT Problem m Engine := do
  let catalog ←
    match settings.catalog.path with
    | some path => ExceptT.mk (Catalog.load read path)
    | none => pure .builtin
  return .standard (.ofCatalog catalog .byPosition) settings.completion.withDeprecated

/-- The shell over the configured catalog. -/
def session (settings : Settings) (read : FileReader m) : ExceptT Problem m Shell.Session := do
  let engine ← settings.engine read
  return ⟨engine, settings.report, settings.completion.maxProposals⟩

/-- The proposals for a text, at most `detail` of them or the configured number. -/
def proposals (settings : Settings) (read : FileReader m) (text : Text) (detail : Option Nat) :
    ExceptT Problem m String := do
  let engine ← settings.engine read
  let level := detail.getD settings.completion.maxProposals
  return settings.report.proposals (engine.complete text level)

/-- The components of the configured catalog. -/
def listing (settings : Settings) (read : FileReader m) : ExceptT Problem m String := do
  let engine ← settings.engine read
  return settings.report.catalog engine.directory.listings

end PipeAssist.Settings

namespace PipeAssist.CommandLine

/-- What a run leaves behind. -/
structure Outcome where
  exitCode : Nat := 0
  output : String := ""
  errors : String := ""
deriving DecidableEq, Repr

/-- The line that tells the version. -/
def versionLine : String := programName ++ " 0.1.0\n"

/-- The answer to a request for help. -/
def usageText : String :=
  "Auto-completion for pipe-and-option pipeline definitions\n\n" ++
  "Usage: " ++ programName ++ " [OPTIONS] [COMMAND]\n\n" ++
  "Commands:\n" ++
  "  complete TEXT     Print completion proposals for a definition\n" ++
  "  catalog           List known components and their options\n" ++
  "  repl              Start the interactive shell\n" ++
  "  completion SHELL  Generate shell completion script\n" ++
  "  help              Print this message\n\n" ++
  "Options:\n" ++
  "  -c, --config FILE  Configuration file path\n" ++
  "  --catalog FILE     Component catalog (TOML); overrides the configured catalog\n" ++
  "  --format FORMAT    Output format (text, json, table)\n" ++
  "  --no-color         Disable colored output\n" ++
  "  -v, --verbose      Verbose mode (debug logging)\n" ++
  "  --vv               Very verbose mode (trace logging)\n" ++
  "  --detail N         Maximum number of proposals of complete (0 for unlimited)\n" ++
  "  -h, --help         Print help\n" ++
  "  -V, --version      Print version\n"

/-- A misuse in words. -/
def Misuse.message : Misuse → String
  | .unknownArgument => "unexpected argument"
  | .unknownCommand => "unrecognized command"
  | .missingArgument => "a required argument was not provided"
  | .emptyValue => "an option needs a value"
  | .invalidNumber => "invalid number"
  | .repeatedOption => "an option was given more than once"
  | .unwantedValue => "an option takes no value"

/-- The outcome when there is no work to do. -/
def Stop.outcome : Stop → Outcome
  | .help => { output := usageText }
  | .version => { output := versionLine }
  | .misuse kind => { exitCode := 2, errors := "error: " ++ kind.message ++ "\n" }

/-- The outcome of what was written up to the end or a problem. -/
def Outcome.ofTranscript (transcript : Shell.Transcript) : Outcome :=
  match transcript.problem with
  | none => { output := transcript.output }
  | some problem =>
    { exitCode := 1, output := transcript.output, errors := "Error: " ++ problem.message ++ "\n" }

variable {m : Type → Type} [Monad m]

/-- Does what a command line asks for; without an action the shell answers the standard input. -/
def perform (read : FileReader m) (input : m Shell.Bytes) (settings : Settings) :
    Option Action → ExceptT Problem m Shell.Transcript
  | some (.complete text detail) => do
    let output ← settings.proposals read text detail
    return { output := output ++ "\n" }
  | some .catalog => do
    let output ← settings.listing read
    return { output := output ++ "\n" }
  | some (.completion shell) => do
    let output ← ExceptT.mk (pure (completionScript shell))
    return { output := output }
  | some .repl | none => do
    let session ← settings.session read
    let script ← ExceptT.lift input
    return session.run script

/-- Runs a command line with a way to read files, the standard input and the home directory. -/
def run (read : FileReader m) (input : m Shell.Bytes) (home : String) (arguments : List String) :
    m Outcome := do
  match Arguments.read arguments with
  | .error stop => return stop.outcome
  | .ok arguments =>
    let result ← ExceptT.run do
      let settings ← arguments.given.configure read home
      perform read input settings arguments.action
    match result with
    | .ok transcript => return .ofTranscript transcript
    | .error problem => return .ofTranscript { output := "", problem := some problem }

end PipeAssist.CommandLine
