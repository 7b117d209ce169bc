import PipeAssist.Text.Basic

/-!
# TOML values

The values of TOML documents. Floating-point numbers and points in time are recognised but not
interpreted: nothing in this library is configured by one.
-/

set_option autoImplicit false

namespace PipeAssist.Toml

/-- A TOML value. The fields of a table are in the order of their first appearance. -/
inductive Value where
  | string (text : Text)
  | integer (number : Int)
  /-- The mark of a base with no digit behind it. It may stand in a document, but denotes no
  number. -/
  | digitless
  | boolean (value : Bool)
  /-- A floating-point number, as written. -/
  | float (text : Text)
  /-- A date, a time, or both, as written. -/
  | moment (text : Text)
  | array (items : List Value)
  | table (fields : List (Text × Value))

end PipeAssist.Toml
