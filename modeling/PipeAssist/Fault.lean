import PipeAssist.Token.Scan
import PipeAssist.Definition

/-!
# Faults

Reading a definition either succeeds or stops with a fault. A fault keeps the text and its tokens,
the number of tokens that were committed before it (the checkpoint), the definition they make up,
and the reason: what was due next when reading stopped.
-/

set_option autoImplicit false

namespace PipeAssist

/-- The kinds of faults. -/
inductive Fault.Kind where
  | missingComponent
  | trailingPipe
  | danglingComponentName
  | missingSeparator
  | unfinishedOptionMarker
  | trailingOptionMarker
  | unfinishedOptionName
  | missingOptionValue
deriving DecidableEq, Repr

namespace Fault.Kind

/-- The name of a fault kind. -/
def name : Kind → String
  | .missingComponent => "missing-component"
  | .trailingPipe => "trailing-pipe"
  | .danglingComponentName => "dangling-component-name"
  | .missingSeparator => "missing-separator"
  | .unfinishedOptionMarker => "unfinished-option-marker"
  | .trailingOptionMarker => "trailing-option-marker"
  | .unfinishedOptionName => "unfinished-option-name"
  | .missingOptionValue => "missing-option-value"

/-- The kind of the last significant token, for fault kinds that fix it. -/
def lastToken? : Kind → Option Token.Kind
  | .trailingPipe => some .pipe
  | .trailingOptionMarker => some .optionMarker
  | .danglingComponentName => some .identifier
  | .unfinishedOptionMarker => some .unknown
  | _ => none

end Fault.Kind

/-- What was due when reading stopped. -/
inductive Fault.Reason where
  /-- A component name was due. -/
  | missingComponent (found : Token.Kind)
  /-- The text ended after a pipe. -/
  | trailingPipe
  /-- The text ended with a component name that may still grow. -/
  | danglingComponentName (fragment : Text)
  /-- An option, a pipe or the end was due after a component. -/
  | missingSeparator (found : Token.Kind)
  /-- The text ended with a single dash. -/
  | unfinishedOptionMarker
  /-- The text ended after the two dashes. -/
  | trailingOptionMarker
  /-- The option name is incomplete or may still grow. -/
  | unfinishedOptionName (fragment : Text)
  /-- The value of an option is missing, and possibly the sign before it too. -/
  | missingOptionValue (option : Text) (afterEquals : Bool)
deriving DecidableEq, Repr

/-- The kind of a reason. -/
def Fault.Reason.kind : Fault.Reason → Fault.Kind
  | .missingComponent _ => .missingComponent
  | .trailingPipe => .trailingPipe
  | .danglingComponentName _ => .danglingComponentName
  | .missingSeparator _ => .missingSeparator
  | .unfinishedOptionMarker => .unfinishedOptionMarker
  | .trailingOptionMarker => .trailingOptionMarker
  | .unfinishedOptionName _ => .unfinishedOptionName
  | .missingOptionValue _ _ => .missingOptionValue

/-- How far reading got, and why it stopped. -/
structure Fault where
  input : Text
  tokens : List Token
  checkpoint : Nat
  definition : Definition
  reason : Fault.Reason
deriving DecidableEq, Repr

namespace Fault

/-- The kind of the fault. -/
def kind (fault : Fault) : Kind := fault.reason.kind

/-- The byte after the last committed token. -/
def offset (fault : Fault) : Nat := Token.endOf (fault.tokens.take fault.checkpoint)

/-- The text of the committed tokens. -/
def safePrefix (fault : Fault) : Text := Text.takeBytes fault.offset fault.input

/-- The kinds of the tokens other than the end of input, last one first. -/
def tail (fault : Fault) : List Token.Kind :=
  ((fault.tokens.filter Token.isSignificant).map (·.kind)).reverse

/-- Whether the significant tokens end with these kinds, oldest first. -/
def endsWith (fault : Fault) (kinds : List Token.Kind) : Bool :=
  kinds.reverse.isPrefixOf fault.tail

/-- Whether two faults have the same checkpoint and the same reason. -/
def isSame (a b : Fault) : Bool := a.checkpoint = b.checkpoint && a.reason = b.reason

/-- The last token that is not the end of input. -/
def lastToken? (fault : Fault) : Option Token := Token.lastSignificant? fault.tokens

/-- The message for a fault. -/
def message (fault : Fault) : String :=
  match fault.reason with
  | .missingComponent found =>
    "Expected component name at " ++ toString fault.offset ++ ", found " ++ found.describe
  | .trailingPipe => "Expected component name after '|'"
  | .danglingComponentName fragment =>
    "Component name '" ++ Text.str fragment ++ "' may be incomplete"
  | .missingSeparator found =>
    "Expected '--', '|' or end of input at " ++ toString fault.offset ++ ", found " ++
      found.describe
  | .unfinishedOptionMarker => "Expected '--' to start an option"
  | .trailingOptionMarker => "Expected option name after '--'"
  | .unfinishedOptionName fragment => "Option name '" ++ Text.str fragment ++ "' is incomplete"
  | .missingOptionValue option true => "Expected value for option '" ++ Text.str option ++ "'"
  | .missingOptionValue option false => "Expected '=' after option '" ++ Text.str option ++ "'"

end Fault

end PipeAssist
