import PipeAssist.Completion.Components
import PipeAssist.Completion.OptionValues
import PipeAssist.Text.HiddenTable

/-!
# Registries

A registry is a list of strategies that was checked: no two have the same name, each declares a
shape, and no shape is one that cannot arise. `Registry.standard` holds the strategies of this
library.
-/

set_option autoImplicit false

namespace PipeAssist

/-- Checked strategies, in the order in which their proposals are made. -/
structure Registry where
  strategies : List Strategy

/-- Why a shape of a strategy can never fit a fault, if that is certain: its fingerprint holds the
end of input, or does not end with the token kind that the fault kind fixes. -/
def Shape.problem? (strategy : String) (shape : Shape) : Option RegistrationProblem :=
  if .endOfInput ∈ shape.fingerprint then some (.endInFingerprint strategy)
  else
    match shape.fault.lastToken?, shape.fingerprint.getLast? with
    | some expected, some last =>
      if last = expected then none
      else some (.unreachableShape strategy shape.fault.name expected.describe)
    | _, _ => none

/-- What is wrong with a strategy, given the names that are taken. -/
def Strategy.problem? (taken : List String) (strategy : Strategy) : Option RegistrationProblem :=
  if strategy.name ∈ taken then some (.duplicateStrategy strategy.name)
  else if strategy.shapes = [] then some (.noShapes strategy.name)
  else strategy.shapes.findSome? (Shape.problem? strategy.name)

namespace Registry

/-- The first problem of strategies that come after others with the names `taken`. -/
def firstProblem? (taken : List String) : List Strategy → Option RegistrationProblem
  | [] => none
  | strategy :: rest =>
    match strategy.problem? taken with
    | some problem => some problem
    | none => firstProblem? (strategy.name :: taken) rest

/-- The registry of these strategies, or the first problem with them. -/
def build (strategies : List Strategy) : Except RegistrationProblem Registry :=
  match firstProblem? [] strategies with
  | some problem => .error problem
  | none => .ok ⟨strategies⟩

/-- The strategies of this library. -/
def standard (withDeprecated : Bool) : Registry :=
  ⟨[.componentName, .resolvedComponent withDeprecated, .missingComponent, .optionMarker,
    .optionLeaf withDeprecated, .optionGroup withDeprecated, .optionValue withDeprecated]⟩

/-- The strategies that are for a fault. -/
def fitting (registry : Registry) (fault : Fault) : List Strategy :=
  registry.strategies.filter fun strategy => strategy.fits fault

/-- The names of the strategies. -/
def names (registry : Registry) : List String := registry.strategies.map (·.name)

/-- A character of a name inside double quotes. What cannot be told apart by sight is written by its
code. -/
def quoteChar (c : Char) : String :=
  if c = '"' then "\\\""
  else if c = '\\' then "\\\\"
  else if c = '\n' then "\\n"
  else if c = '\r' then "\\r"
  else if c = '\t' then "\\t"
  else if c.toNat = 0 then "\\0"
  else if Text.HiddenTable.isHidden c.toNat then
    "\\u\x7b" ++ String.ofList (Nat.toDigits 16 c.toNat) ++ "\x7d"
  else String.singleton c

/-- A name inside double quotes. -/
def quoteName (name : String) : String :=
  "\"" ++ String.join (name.toList.map quoteChar) ++ "\""

/-- The names of the strategies on one line. -/
def summary (registry : Registry) : String :=
  "StrategyRegistry \x7b strategies: [" ++
    String.intercalate ", " (registry.names.map quoteName) ++ "] \x7d"

end Registry

end PipeAssist
