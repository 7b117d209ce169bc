import PipeAssist.Completion.Engine

/-!
# Suggestions and prompt

What a line editor shows besides the line: suggestions for the text before the cursor, and the
prompt with the number of definitions checked so far.
-/

set_option autoImplicit false

namespace PipeAssist.Shell

/-- A replacement for the bytes of the line from `start` up to `stop`. -/
structure Suggestion where
  value : Text
  description : Option String
  start : Nat
  stop : Nat
deriving DecidableEq, Repr

/-- The suggestions for a line with the cursor at a byte. Each replaces everything before the
cursor; there are none when the cursor is inside a character. -/
def suggestions (engine : Engine) (level : Nat) (line : Text) (cursor : Nat) : List Suggestion :=
  let stop := min cursor (Text.byteSize line)
  match Text.upToByte? stop line with
  | none => []
  | some before =>
    (engine.complete before level).map fun proposal =>
      { value := proposal.text
        description := if proposal.explanation = "" then none else some proposal.explanation
        start := 0
        stop := stop }

/-- The prompt of the shell. -/
structure Prompt where
  label : String := "pipeline"
  /-- Number of definitions checked so far. -/
  checked : Nat := 0
deriving DecidableEq, Repr

namespace Prompt

/-- The prompt after one more definition. -/
def recordCheck (prompt : Prompt) : Prompt := { prompt with checked := prompt.checked + 1 }

/-- The text before the line. -/
def left (prompt : Prompt) : String :=
  if prompt.checked = 0 then prompt.label ++ "> "
  else prompt.label ++ " [" ++ toString prompt.checked ++ "]> "

/-- The text at the right edge. -/
def right : String := ""

/-- The text between the prompt and the line. -/
def indicator : String := ""

/-- The text before further lines. -/
def continuation : String := "... "

/-- The text before the line while the history is searched for a term. -/
def search (failing : Bool) (term : String) : String :=
  "(" ++ (if failing then "failing " else "") ++ "reverse-search: " ++ term ++ ") "

end Prompt

end PipeAssist.Shell
