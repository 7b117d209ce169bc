import PipeAssist.Toml.Document
import PipeAssist.Toml.Magnitude

/-!
# Decoding TOML values

Decoders turn TOML values into values of this library, or refuse them. A record is decoded from a
table by the names of its fields, or from an array by their positions.
-/

set_option autoImplicit false

namespace PipeAssist.Toml.Decode

/-- A string. -/
def text : Value → Option Text
  | .string value => some value
  | _ => none

/-- A string of prose. -/
def prose (value : Value) : Option String := (text value).map Text.str

/-- A boolean. -/
def flag : Value → Option Bool
  | .boolean value => some value
  | _ => none

/-- A natural number of at most 64 bits. -/
def size : Value → Option Nat
  | .integer number => if 0 ≤ number && number.toNat < Text.wordLimit then some number.toNat else none
  | _ => none

/-- An array of values of one kind. -/
def list {α : Type} (decode : Value → Option α) : Value → Option (List α)
  | .array items => items.mapM decode
  | _ => none

/-- One of several names: a string, or a table with the name as its only key and nothing under it. -/
def choice {α : Type} (ofName? : String → Option α) : Value → Option α
  | .string name => ofName? (Text.str name)
  | .table [(name, .table [])] => ofName? (Text.str name)
  | .table [(name, .array [])] => ofName? (Text.str name)
  | _ => none

/-- The values of the fields of a record, those that are missing as `none`. A strict record refuses
fields of other names; any other record ignores them, but their numbers have to fit. A point in time
counts as a table with a field of another name. -/
def record (strict : Bool) (names : List String) : Value → Option (List (Option Value))
  | .table fields =>
    let others := fields.filter fun field => Text.str field.1 ∉ names
    if if strict then others.isEmpty else Value.fieldsFit others then
      some (names.map fun name => fields.lookup name.toList)
    else none
  | .array items => some (names.zipIdx.map fun entry => items[entry.2]?)
  | .moment _ => if strict then none else some (names.map fun _ => none)
  | _ => none

/-- A field that has to be there. -/
def required {α : Type} (decode : Value → Option α) (field : Option Value) : Option α :=
  field.bind decode

/-- A field that is something else when it is missing. -/
def withDefault {α : Type} (decode : Value → Option α) (fallback : α) : Option Value → Option α
  | none => some fallback
  | some value => decode value

/-- A field that may be missing. -/
def optional {α : Type} (decode : Value → Option α) : Option Value → Option (Option α)
  | none => some none
  | some value => (decode value).map some

end PipeAssist.Toml.Decode
