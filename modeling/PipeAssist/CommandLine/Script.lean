import PipeAssist.Problem
import PipeAssist.CommandLine.Options

/-!
# Completion scripts

Scripts by which a shell completes the command line of this program: they offer the names of its
commands and options.
-/

set_option autoImplicit false

namespace PipeAssist.CommandLine

/-- The name of this program. -/
def programName : String := "pipeline-complete"

/-- The shells for which there is a script. -/
inductive TargetShell where
  | bash
  | zsh
  | fish
  | powerShell
deriving DecidableEq, Repr

namespace TargetShell

/-- The shell of a name in capital or small letters. -/
def ofName? (name : String) : Option TargetShell :=
  [("bash", .bash), ("zsh", .zsh), ("fish", .fish), ("powershell", .powerShell),
   ("pwsh", TargetShell.powerShell)].lookup name.toLower

/-- The words that a script offers. -/
def words : List String :=
  CommandName.all.map CommandName.name ++ ["help"] ++ (longNames none).map fun entry => "--" ++ entry.1

/-- The script for a shell. -/
def script (shell : TargetShell) : String :=
  match shell with
  | .bash => "complete -W '" ++ " ".intercalate words ++ "' " ++ programName ++ "\n"
  | .zsh => "#compdef " ++ programName ++ "\ncompadd -- " ++ " ".intercalate words ++ "\n"
  | .fish =>
    "complete -c " ++ programName ++ " -f -a '" ++ " ".intercalate words ++ "'\n"
  | .powerShell =>
    "Register-ArgumentCompleter -Native -CommandName '" ++ programName ++
      "' -ScriptBlock \x7b param($word) @('" ++ "', '".intercalate words ++
      "') | Where-Object \x7b $_ -like \"$word*\" \x7d \x7d\n"

end TargetShell

/-- The script for the shell of a name. -/
def completionScript (name : String) : Except Problem String :=
  match TargetShell.ofName? name with
  | some shell => .ok shell.script
  | none =>
    .error (.settings (.other ("Unsupported shell: " ++ name ++
      ". Supported shells: bash, zsh, fish, powershell")))

end PipeAssist.CommandLine
