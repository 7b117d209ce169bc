import PipeAssist.Shell.Command
import PipeAssist.Problem

/-!
# Scripts

A script is a sequence of bytes that holds one command a line. Its lines are answered in order, up
to a line that leaves the shell or is no valid UTF-8.
-/

set_option autoImplicit false

namespace PipeAssist.Shell

/-- The bytes of a script. -/
abbrev Bytes := List UInt8

/-- The text of bytes in UTF-8. -/
def decode? (bytes : Bytes) : Option Text :=
  (String.fromUTF8? ⟨bytes.toArray⟩).map String.toList

/-- A line without the carriage return that ended it together with a line feed. -/
def dropReturn (line : Bytes) : Bytes := if line.getLast? = some 13 then line.dropLast else line

/-- The lines of a script when `line` holds the bytes of the current line. Bytes after the last line
feed are a line as they are, unless there are none. -/
def linesFrom (line : Bytes) : Bytes → List Bytes
  | [] => if line = [] then [] else [line]
  | byte :: rest =>
    if byte = 10 then dropReturn line :: linesFrom [] rest else linesFrom (line ++ [byte]) rest

/-- The lines of a script. -/
def scriptLines (script : Bytes) : List Bytes := linesFrom [] script

/-- What a script wrote, and the problem that stopped it, if one did. -/
structure Transcript where
  output : String
  problem : Option Problem := none

/-- What is wrong with a line that is no text. -/
def notText : Problem := .inputOutput "stream did not contain valid UTF-8"

namespace Session

/-- Answers lines one after the other. -/
def runLines (session : Session) : List Bytes → Transcript
  | [] => ⟨"", none⟩
  | line :: rest =>
    match decode? line with
    | none => ⟨"", some notText⟩
    | some text =>
      match Command.ofLine? text with
      | none => session.runLines rest
      | some command =>
        match session.answer? command with
        | none => ⟨"", none⟩
        | some answer =>
          let after := session.runLines rest
          ⟨answer ++ "\n" ++ after.output, after.problem⟩

/-- Answers a script. -/
def run (session : Session) (script : Bytes) : Transcript :=
  session.runLines (scriptLines script)

end Session

end PipeAssist.Shell
