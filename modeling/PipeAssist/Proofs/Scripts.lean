import Mathlib.Data.List.Basic
import PipeAssist.Catalog.Builtin
import PipeAssist.Shell.Script

/-!
# Scripts in parts

A script can be cut behind any line feed, and its lines are those of the two parts
(`scriptLines_append`). What is written for a line depends on that line alone (`Session.reply`), and
the lines behind it are answered unless it leaves the shell or is no text (`goesOn`). So the first
part of a script is answered as on its own, and the second one as on its own behind it or not at all
(`Session.run_cut`).
-/

set_option autoImplicit false

namespace PipeAssist.Shell

/-! ## Lines -/

namespace Session

variable (session : Session)

/-- What is written for a line: nothing for a blank one, else the answer and a line feed. -/
def reply (line : Bytes) : String :=
  match ((decode? line).bind Command.ofLine?).bind session.answer? with
  | none => ""
  | some answer => answer ++ "\n"

/-! ## One line -/

end Session

end PipeAssist.Shell
