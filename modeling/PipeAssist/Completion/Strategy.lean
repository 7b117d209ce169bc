import PipeAssist.Fault
import PipeAssist.Catalog.Directory
import PipeAssist.Completion.Proposal

/-!
# Strategies

A strategy turns a fault into proposals. It declares the shapes of the faults it is for: a fault
kind and the kinds of the tokens the text has to end with (the fingerprint). The level passed to
`propose` asks for at most that many proposals; level zero asks for all.
-/

set_option autoImplicit false

namespace PipeAssist

/-- A fault kind and the token kinds, oldest first, that the text has to end with. -/
structure Shape where
  fault : Fault.Kind
  fingerprint : List Token.Kind
deriving DecidableEq, Repr

/-- Whether a fault has a shape. -/
def Shape.fits (shape : Shape) (fault : Fault) : Bool :=
  fault.kind = shape.fault && fault.endsWith shape.fingerprint

/-- A named way to go on after faults of certain shapes. -/
structure Strategy where
  name : String
  shapes : List Shape
  propose : Fault → Directory → Nat → List Proposal

/-- Whether a strategy is for a fault. -/
def Strategy.fits (strategy : Strategy) (fault : Fault) : Bool :=
  strategy.shapes.any fun shape => shape.fits fault

/-- The component that is being configured when the fault arises, with its use: the last one that
was committed, if the directory knows it. -/
def Fault.configured? (fault : Fault) (directory : Directory) : Option (Component × ComponentUse) :=
  match fault.definition.getLast?, directory.resolveLast fault.definition with
  | some use, some component => some (component, use)
  | _, _ => none

end PipeAssist
