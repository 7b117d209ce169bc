import PipeAssist.Completion.Strategy
import PipeAssist.Completion.Continuation

/-!
# Strategies for component names

Where a name is being typed, the names that extend it are proposed, and what can follow it if it is
a component already. Where a name is missing, all that can stand there are proposed.
-/

set_option autoImplicit false

namespace PipeAssist.Strategy

/-- The shape of a text that ends with a component name which may still grow. -/
def danglingName : List Shape := [⟨.danglingComponentName, [.identifier]⟩]

/-- The explanation of a proposed component. -/
def explainComponent (component : Component) : String := component.category.name ++ " component"

/-- Components whose names extend the one being typed. -/
def componentName : Strategy where
  name := "component-name"
  shapes := danglingName
  propose fault directory level :=
    match fault.reason, fault.lastToken? with
    | .danglingComponentName fragment, some token =>
      let kept := Text.takeBytes token.start fault.input
      let candidates := (directory.componentsAfter fault.definition).filter fun component =>
        Text.startsWith component.name fragment && component.name ≠ fragment
      (capped level candidates).map fun component =>
        Proposal.adjoin kept component.name (explainComponent component)
    | _, _ => []

/-- What can follow the name being typed, if it is the name of a component. -/
def resolvedComponent (withDeprecated : Bool) : Strategy where
  name := "resolved-component"
  shapes := danglingName
  propose fault directory level :=
    match fault.reason, fault.lastToken? with
    | .danglingComponentName fragment, some token =>
      match directory.resolveAfter fragment fault.definition with
      | none => []
      | some component =>
        capped level <| continuations directory withDeprecated
          (Text.takeBytes token.stop fault.input) component ⟨fragment, []⟩
    | _, _ => []

/-- All components that can stand where a name is missing. -/
def missingComponent : Strategy where
  name := "missing-component"
  shapes := [⟨.missingComponent, []⟩, ⟨.trailingPipe, [.pipe]⟩]
  propose fault directory level :=
    (capped level (directory.componentsAfter fault.definition)).map fun component =>
      Proposal.separate fault.safePrefix component.name (explainComponent component)

end PipeAssist.Strategy
