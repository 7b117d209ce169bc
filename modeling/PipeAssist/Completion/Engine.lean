import PipeAssist.Reading
import PipeAssist.Completion.Registry

/-!
# Completion

An engine completes a text: after a text that reads as a definition it proposes continuations, after
a fault it collects the proposals of the fitting strategies. Every text is proposed once, with its
first explanation, and at most `level` proposals are kept unless the level is zero.
-/

set_option autoImplicit false

namespace PipeAssist

/-- Strategies and the directory they consult. -/
structure Engine where
  registry : Registry
  directory : Directory
  /-- Whether deprecated options count in continuations. -/
  withDeprecated : Bool := false

namespace Engine

/-- The engine with the strategies of this library. -/
def standard (directory : Directory) (withDeprecated : Bool) : Engine :=
  ⟨.standard withDeprecated, directory, withDeprecated⟩

/-- What can follow a text that reads as `definition`. -/
def forward (engine : Engine) (text : Text) (definition : Definition) : List Proposal :=
  match closeLiteral? text with
  | some closing => [closing]
  | none =>
    match definition.getLast?, engine.directory.resolveLast definition with
    | some use, some component =>
      continuations engine.directory engine.withDeprecated (Text.trimEnd text) component use
    | _, _ => []

/-- What the fitting strategies propose after a fault. -/
def recover (engine : Engine) (fault : Fault) (level : Nat) : List Proposal :=
  (engine.registry.fitting fault).flatMap fun strategy =>
    strategy.propose fault engine.directory level

/-- The proposals for a text. -/
def complete (engine : Engine) (text : Text) (level : Nat) : List Proposal :=
  let proposals :=
    match Definition.read text with
    | .ok definition => engine.forward text definition
    | .error fault => engine.recover fault level
  capped level (Proposal.distinct proposals)

end Engine

end PipeAssist
