/-!
# Problems

Everything that can go wrong apart from faults in a definition, as causes. `Problem.message` is the
one place where they are put into words.
-/

set_option autoImplicit false

namespace PipeAssist

/-- Problems with the settings. -/
inductive SettingsProblem where
  | fileNotFound (path : String)
  | invalidFormat (detail : String)
  | invalidValue (field value : String)
  | other (text : String)
deriving DecidableEq, Repr

/-- Problems with a catalog. -/
inductive CatalogProblem where
  | fileNotFound (path : String)
  | invalidFormat (detail : String)
  | duplicateComponent (name category : String)
  /-- A blank component name if `component` is empty, else a blank option id of that component. -/
  | emptyIdentifier (component : String)
deriving DecidableEq, Repr

/-- Problems with the strategies of a registry. -/
inductive RegistrationProblem where
  | noShapes (strategy : String)
  | endInFingerprint (strategy : String)
  | unreachableShape (strategy fault expected : String)
  | duplicateStrategy (strategy : String)
deriving DecidableEq, Repr

/-- Any problem. -/
inductive Problem where
  | settings (problem : SettingsProblem)
  | catalog (problem : CatalogProblem)
  | registration (problem : RegistrationProblem)
  /-- Reading or writing failed; the text is the system's. -/
  | inputOutput (text : String)
  | serialization (text : String)
  | generic (text : String)
deriving DecidableEq, Repr

/-- A settings problem in words. -/
def SettingsProblem.message : SettingsProblem → String
  | .fileNotFound path => "Config file not found: " ++ path
  | .invalidFormat detail => "Invalid config format: " ++ detail
  | .invalidValue field value => "Invalid value '" ++ value ++ "' for field '" ++ field ++ "'"
  | .other text => text

/-- A catalog problem in words. -/
def CatalogProblem.message : CatalogProblem → String
  | .fileNotFound path => "Catalog file not found: " ++ path
  | .invalidFormat detail => "Invalid catalog format: " ++ detail
  | .duplicateComponent name category =>
    "Component '" ++ name ++ "' is registered twice as " ++ category
  | .emptyIdentifier component =>
    if component = "" then "Component name must not be empty"
    else "Option id of component '" ++ component ++ "' must not be empty"

/-- A registration problem in words. -/
def RegistrationProblem.message : RegistrationProblem → String
  | .noShapes strategy => "Strategy '" ++ strategy ++ "' declares no shapes"
  | .endInFingerprint strategy => "Strategy '" ++ strategy ++ "' uses end of input in a fingerprint"
  | .unreachableShape strategy fault expected =>
    "Strategy '" ++ strategy ++ "' can never match " ++ fault ++
      ": fingerprint must end with " ++ expected
  | .duplicateStrategy strategy => "Strategy '" ++ strategy ++ "' is registered twice"

namespace Problem

/-- A problem in words. -/
def message : Problem → String
  | .settings problem => "Configuration error: " ++ problem.message
  | .catalog problem => "Catalog error: " ++ problem.message
  | .registration problem => "Strategy registration error: " ++ problem.message
  | .inputOutput text => "I/O error: " ++ text
  | .serialization text => "Serialization error: " ++ text
  | .generic text => text

/-- The text of the problem underneath, where there is one. -/
def cause? : Problem → Option String
  | .inputOutput text => some text
  | _ => none

end Problem

end PipeAssist
