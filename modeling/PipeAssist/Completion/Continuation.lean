import PipeAssist.Token.Scan
import PipeAssist.Catalog.Directory
import PipeAssist.Completion.Proposal

/-!
# Continuations of complete texts

A text that ends inside a quoted literal goes on by closing it. A text that ends with a complete
component goes on with a pipe, if the component passes anything on, and with an option, if one is
left to supply.
-/

set_option autoImplicit false

namespace PipeAssist

/-- The proposal that closes the literal which a text ends in, if it ends in an open one. -/
def closeLiteral? (text : Text) : Option Proposal :=
  match Token.lastSignificant? (Token.scan text) with
  | none => none
  | some token =>
    if token.isOpenLiteral then
      some (Proposal.adjoin text (Literal.closing token.raw) "Close the quoted value")
    else none

/-- What can follow `kept`, a text that ends with a use of `component`. -/
def continuations (directory : Directory) (withDeprecated : Bool) (kept : Text)
    (component : Component) (use : ComponentUse) : List Proposal :=
  let onward :=
    if component.category.acceptsDownstream then
      [Proposal.separate kept ['|']
        ("Send the output of '" ++ Text.str component.name ++ "' to another component")]
    else []
  let available := (directory.unusedOptions withDeprecated component use).length
  let configure :=
    if 0 < available then
      [Proposal.separate kept ['-', '-']
        ("Configure '" ++ Text.str component.name ++ "' (" ++ toString available ++
          " options available)")]
    else []
  onward ++ configure

end PipeAssist
