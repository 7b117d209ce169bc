import PipeAssist.Text.Basic

/-!
# Pipeline definitions

A definition is the list of its component uses, in pipeline order. A component use has the name as
written and the options supplied so far, sorted by key, one value per key.
-/

set_option autoImplicit false

namespace PipeAssist

/-- One component of a pipeline with the options supplied to it. -/
structure ComponentUse where
  name : Text
  options : List (Text × Text) := []
deriving DecidableEq, Repr

namespace ComponentUse

/-- Puts a value into an option list that is sorted by key. A key that is there already gets the new
value. -/
def putOption (key value : Text) : List (Text × Text) → List (Text × Text)
  | [] => [(key, value)]
  | (k, v) :: rest =>
    if key = k then (key, value) :: rest
    else if Text.precedes key k then (key, value) :: (k, v) :: rest
    else (k, v) :: putOption key value rest

/-- The use with one more option, or a new value for an old one. -/
def withOption (use : ComponentUse) (key value : Text) : ComponentUse :=
  { use with options := putOption key value use.options }

/-- Whether an option is supplied. -/
def hasOption (use : ComponentUse) (key : Text) : Bool := use.options.any fun entry => entry.1 = key

/-- The value of an option. -/
def option? (use : ComponentUse) (key : Text) : Option Text := use.options.lookup key

end ComponentUse

/-- The component uses of a pipeline, in order. -/
abbrev Definition := List ComponentUse

namespace Definition

/-- The definition with an option supplied to its last component. -/
def withOption (definition : Definition) (key value : Text) : Definition :=
  match definition.getLast? with
  | none => definition
  | some use => definition.dropLast ++ [use.withOption key value]

end Definition

end PipeAssist
