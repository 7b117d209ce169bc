import PipeAssist.Completion.OptionNames

/-!
# Strategies for option markers and option values

A single dash is completed to two. After an option name without its equals sign the sign is
proposed; after the sign, the values that the option suggests, and then its default.
-/

set_option autoImplicit false

namespace PipeAssist.Strategy

/-- The second dash of an option marker. -/
def optionMarker : Strategy where
  name := "option-marker"
  shapes := [⟨.unfinishedOptionMarker, [.unknown]⟩]
  propose fault _ _ := [Proposal.separate fault.safePrefix ['-', '-'] "Start an option"]

/-- The option of that id of the component being configured, if it can still be supplied. -/
def openOption? (withDeprecated : Bool) (fault : Fault) (directory : Directory) (id : Text) :
    Option OptionSpec :=
  match fault.configured? directory with
  | none => none
  | some (component, use) =>
    (directory.unusedOptions withDeprecated component use).find? fun option => option.id = id

/-- The values worth proposing for an option: its hints, and its default unless a hint says the
same. -/
def suggestedValues (option : OptionSpec) : List (Text × String) :=
  let hints := option.hints.map fun hint => (hint, "Suggested value")
  match option.defaultValue with
  | none => hints
  | some value => if value ∈ option.hints then hints else hints ++ [(value, "Default value")]

/-- The equals sign or the value that an option lacks. -/
def optionValue (withDeprecated : Bool) : Strategy where
  name := "option-value"
  shapes := [⟨.missingOptionValue, [.equals]⟩, ⟨.missingOptionValue, [.identifier]⟩]
  propose fault directory level :=
    match fault.reason with
    | .missingOptionValue id afterEquals =>
      match openOption? withDeprecated fault directory id with
      | none => []
      | some option =>
        let assignment := marked (id ++ ['='])
        if afterEquals then
          (capped level (suggestedValues option)).map fun entry =>
            Proposal.separate fault.safePrefix (assignment ++ Literal.spell entry.1) entry.2
        else [Proposal.separate fault.safePrefix assignment option.description]
    | _ => []

end PipeAssist.Strategy
