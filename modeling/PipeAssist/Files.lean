import PipeAssist.Text.Basic

/-!
# Files

What reading a file can give. Functions that need files take the reading as an argument, so that
they say nothing about where files are kept.
-/

set_option autoImplicit false

namespace PipeAssist

/-- The result of reading a file. -/
inductive FileContent where
  | missing
  /-- There is something under the path, but it could not be read as text. -/
  | unreadable (reason : String)
  | text (content : Text)
deriving DecidableEq, Repr

/-- A way to read files by their paths. -/
abbrev FileReader (m : Type → Type) := String → m FileContent

/-- A path below a directory. -/
def joinPath (directory name : String) : String :=
  if directory = "" then name
  else if directory.toList.getLast? = some '/' then directory ++ name
  else directory ++ "/" ++ name

end PipeAssist
