import PipeAssist.Text.Basic

/-!
# Proposals

A proposal is a whole new text together with an explanation. It is made by joining a suffix to a
text that is kept: right at its end, or as a new token after a blank.
-/

set_option autoImplicit false

namespace PipeAssist

/-- A text to go on with, and why. -/
structure Proposal where
  text : Text
  explanation : String
deriving DecidableEq, Repr

namespace Proposal

/-- Joins a suffix right to the end of a text. -/
def adjoin (kept suffix : Text) (explanation : String) : Proposal := ⟨kept ++ suffix, explanation⟩

/-- Joins a suffix as a new token: after a blank, unless the text is empty or ends in one. -/
def separate (kept suffix : Text) (explanation : String) : Proposal :=
  if kept = [] || Text.endsInBlank kept then adjoin kept suffix explanation
  else ⟨kept ++ ' ' :: suffix, explanation⟩

/-- Proposals count as equal when they propose the same text. -/
def sameText (a b : Proposal) : Bool := a.text = b.text

/-- The first proposal of every text. -/
def distinct (proposals : List Proposal) : List Proposal := distinctBy (·.text) proposals

end Proposal

end PipeAssist
