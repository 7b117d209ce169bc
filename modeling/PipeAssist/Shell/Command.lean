import PipeAssist.Completion.Engine
import PipeAssist.Report.Basic

/-!
# Shell commands

A line of the shell is a command word, blank, or a definition to check. Checking a definition tells
whether it reads and lists what could follow.
-/

set_option autoImplicit false

namespace PipeAssist.Shell

/-- What a line asks for. -/
inductive Command where
  | help
  | catalog
  | quit
  /-- A definition to check, as typed. -/
  | definition (text : Text)
deriving DecidableEq, Repr

/-- The command words, blanks around them aside. -/
def commandWords : List (Text × Command) :=
  [("help".toList, .help), (":help".toList, .help), ("?".toList, .help),
   ("catalog".toList, .catalog), (":catalog".toList, .catalog),
   ("quit".toList, .quit), ("exit".toList, .quit), (":q".toList, .quit)]

/-- The command of a line; a blank line has none. -/
def Command.ofLine? (line : Text) : Option Command :=
  if Text.isAllBlank line then none
  else some ((commandWords.lookup (Text.trim line)).getD (.definition line))

/-- The answer to the help command. -/
def helpText : String :=
  "Type a pipeline definition and press Tab for proposals, Enter to check it.\n\n" ++
  "  help      Show this message\n" ++
  "  catalog   List known components and their options\n" ++
  "  quit      Leave the shell (also: exit, Ctrl-D)"

/-- What a shell needs to answer commands. -/
structure Session where
  engine : Engine
  report : Report
  /-- The greatest number of proposals, or zero for all. -/
  level : Nat

namespace Session

/-- Whether a definition reads, and what could follow it. -/
def check (session : Session) (text : Text) : String :=
  let status :=
    match Definition.readFinished text with
    | .ok definition => "Valid pipeline with " ++ toString definition.length ++ " component(s)"
    | .error fault => session.report.error fault.message
  status ++ "\n" ++ session.report.proposals (session.engine.complete text session.level)

/-- The answer to a command; leaving the shell has none. -/
def answer? (session : Session) : Command → Option String
  | .quit => none
  | .help => some helpText
  | .catalog => some (session.report.catalog session.engine.directory.listings)
  | .definition text => some (session.check text)

end Session

end PipeAssist.Shell
