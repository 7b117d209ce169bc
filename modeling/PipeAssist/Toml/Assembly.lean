import PipeAssist.Toml.Value

/-!
# Assembling tables

A document builds its tables piece by piece: by headers, by headers of array elements and by
assignments to dotted keys. What may be added later depends on how a table came about, so tables
keep that while they are built. Values, inline tables among them, are closed: nothing can be added
to them.
-/

set_option autoImplicit false

namespace PipeAssist.Toml

/-- How a table came about. -/
inductive Origin where
  /-- As a part of the path of a longer header. -/
  | implied
  /-- By a header of its own. -/
  | header
  /-- As a part of a dotted key. -/
  | dotted
deriving DecidableEq, Repr

/-- A table under construction, an array of such tables, or a closed value. -/
inductive Item where
  | closed (value : Value)
  | table (origin : Origin) (fields : List (Text × Item))
  | tables (elements : List (List (Text × Item)))

/-- The fields of a table under construction. -/
abbrev Fields := List (Text × Item)

/-- Changes the field of a key, or adds one. -/
def Fields.change (key : Text) (change : Option Item → Option Item) : Fields → Option Fields
  | [] => (change none).map fun item => [(key, item)]
  | (k, item) :: rest =>
    if k = key then (change (some item)).map fun changed => (k, changed) :: rest
    else (Fields.change key change rest).map fun changed => (k, item) :: changed

/-- Changes the last element of a list. -/
def changeLast {α : Type} (change : α → Option α) (elements : List α) : Option (List α) :=
  match elements.getLast? with
  | none => none
  | some last => (change last).map fun changed => elements.dropLast ++ [changed]

/-- Changes the table that the path of a header leads to. The last element stands for an array of
tables; what is missing is implied. -/
def Fields.underHeader (change : Fields → Option Fields) : List Text → Fields → Option Fields
  | [], fields => change fields
  | key :: path, fields =>
    Fields.change key (fun
      | none => (Fields.underHeader change path []).map (.table .implied)
      | some (.table origin inner) => (Fields.underHeader change path inner).map (.table origin)
      | some (.tables elements) =>
        (changeLast (Fields.underHeader change path) elements).map .tables
      | some (.closed _) => none) fields

/-- Assigns a value to a dotted key. Only tables that dotted keys made can take more of them, and
nothing is assigned twice. -/
def Fields.assign (value : Value) : List Text → Fields → Option Fields
  | [], _ => none
  | [key], fields =>
    Fields.change key (fun
      | none => some (.closed value)
      | some _ => none) fields
  | key :: next :: path, fields =>
    Fields.change key (fun
      | none => (Fields.assign value (next :: path) []).map (.table .dotted)
      | some (.table .header _) => none
      | some (.table origin inner) =>
        if path = [] && origin ≠ .dotted then none
        else (Fields.assign value (next :: path) inner).map (.table origin)
      | some (.tables elements) =>
        if path = [] then none
        else (changeLast (Fields.assign value (next :: path)) elements).map .tables
      | some (.closed _) => none) fields

/-- Opens the table of a header: a new one, or one that was only implied so far. -/
def Fields.openTable (path : List Text) (fields : Fields) : Option Fields :=
  match path.getLast? with
  | none => none
  | some key =>
    Fields.underHeader (Fields.change key fun
      | none => some (.table .header [])
      | some (.table .implied inner) => some (.table .header inner)
      | some _ => none) path.dropLast fields

/-- Opens one more element of an array of tables. -/
def Fields.openElement (path : List Text) (fields : Fields) : Option Fields :=
  match path.getLast? with
  | none => none
  | some key =>
    Fields.underHeader (Fields.change key fun
      | none => some (.tables [[]])
      | some (.tables elements) => some (.tables (elements ++ [[]]))
      | some _ => none) path.dropLast fields

mutual

/-- The value of an item. -/
def Item.toValue : Item → Value
  | .closed value => value
  | .table _ fields => .table (Item.fieldValues fields)
  | .tables elements => .array (Item.elementValues elements)

/-- The values of fields. -/
def Item.fieldValues : List (Text × Item) → List (Text × Value)
  | [] => []
  | (key, item) :: rest => (key, item.toValue) :: Item.fieldValues rest

/-- The values of the elements of an array of tables. -/
def Item.elementValues : List (List (Text × Item)) → List Value
  | [] => []
  | fields :: rest => .table (Item.fieldValues fields) :: Item.elementValues rest

end

/-- The inline table of assignments, in order. -/
def inlineTable? (assignments : List (List Text × Value)) : Option Value :=
  (assignments.foldlM (fun fields (path, value) => Fields.assign value path fields) []).map
    fun fields => .table (Item.fieldValues fields)

end PipeAssist.Toml
