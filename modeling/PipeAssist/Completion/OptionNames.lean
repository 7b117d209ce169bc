import PipeAssist.Completion.Strategy

/-!
# Strategies for option names

The text typed after the last two dashes selects among the option groups of the component. A group
is being completed when its id is the typed text up to the last dot, or the typed text without a dot
at its end; its options are proposed whole. Any other group whose id extends the typed text adds one
more dotted segment.
-/

set_option autoImplicit false

namespace PipeAssist.Strategy

/-- The text after the last two dashes, for the faults that leave an option name incomplete. -/
def typedName? : Fault.Reason → Option Text
  | .unfinishedOptionName fragment => some fragment
  | .trailingOptionMarker => some []
  | _ => none

/-- The shapes of texts that end in an incomplete option name. -/
def openName : List Shape :=
  [⟨.unfinishedOptionName, [.identifier]⟩, ⟨.unfinishedOptionName, [.dot]⟩,
   ⟨.trailingOptionMarker, [.optionMarker]⟩]

/-- The text without a dot at its end. -/
def withoutLastDot (text : Text) : Text :=
  if text.getLast? = some '.' then text.dropLast else text

/-- Whether the typed text asks for the options of the group itself. -/
def isCompleting (typed : Text) (group : OptionGroup) : Bool :=
  group.id = parentGroup typed || group.id = withoutLastDot typed

/-- The first text of a group id that extends the typed text and ends before a dot. -/
def nextSegment (typed : Text) (group : OptionGroup) : Text :=
  typed ++ (group.id.drop typed.length).takeWhile (· ≠ '.')

/-- An option in front of which two dashes are put. -/
def marked (text : Text) : Text := '-' :: '-' :: text

/-- Options of the groups that are being completed. -/
def optionLeaf (withDeprecated : Bool) : Strategy where
  name := "option-leaf"
  shapes := openName
  propose fault directory level :=
    match typedName? fault.reason, fault.configured? directory with
    | some typed, some (component, use) =>
      let options := ((directory.optionGroups component).filter (isCompleting typed)).flatMap
        (·.options)
      let candidates := options.filter fun option =>
        Directory.isAvailable withDeprecated use option && Text.startsWith option.id typed
      (capped level candidates).map fun option =>
        Proposal.separate fault.safePrefix (marked (option.id ++ ['='])) option.description
    | _, _ => []

/-- The next segments of the other groups, every segment once. -/
def optionGroup (withDeprecated : Bool) : Strategy where
  name := "option-group"
  shapes := openName
  propose fault directory level :=
    match typedName? fault.reason, fault.configured? directory with
    | some typed, some (component, use) =>
      let groups := (directory.optionGroups component).filter fun group =>
        group.id ≠ [] && !isCompleting typed group && Text.startsWith group.id typed &&
          group.options.any (Directory.isAvailable withDeprecated use)
      let segments := distinctBy (fun segment => segment) (groups.map (nextSegment typed))
      (capped level segments).map fun segment =>
        Proposal.separate fault.safePrefix (marked (segment ++ ['.']))
          ("Options under '" ++ Text.str segment ++ "'")
    | _, _ => []

end PipeAssist.Strategy
