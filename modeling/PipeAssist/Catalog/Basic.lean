import PipeAssist.Text.Basic
import PipeAssist.Problem

/-!
# Catalogs

A catalog lists components in the order of their registration, each with its options. A component is
known by its name and its category: one name may stand in several categories, but only once in each.
`Catalog.add` registers a component or says why it cannot; `components`, `find?` and `optionsOf` are
the views, and `optionGroups` sorts the options of a component into their groups.
-/

set_option autoImplicit false

namespace PipeAssist

/-- The roles a component can play in a pipeline. -/
inductive Category where
  | source
  | processor
  | sink
  | app
deriving DecidableEq, Repr

namespace Category

/-- All categories. -/
def all : List Category := [.source, .processor, .sink, .app]

/-- The name of a category. -/
def name : Category → String
  | .source => "source"
  | .processor => "processor"
  | .sink => "sink"
  | .app => "app"

/-- The category of a name. -/
def ofName? (name : String) : Option Category := all.find? fun category => category.name = name

/-- Whether a component of this category can be followed by a pipe. -/
def acceptsDownstream (category : Category) : Bool := category ≠ .sink

end Category

/-- A component that a pipeline can use. -/
structure Component where
  name : Text
  category : Category
  /-- Where the description of the component comes from. -/
  metadata : Option String := none
deriving DecidableEq, Repr

/-- The id of the group that an option belongs to unless another one is declared: the id up to its
last dot, or nothing. -/
def parentGroup (id : Text) : Text :=
  if '.' ∈ id then ((id.reverse.dropWhile (· ≠ '.')).drop 1).reverse else []

/-- An option of a component. -/
structure OptionSpec where
  id : Text
  group : Text
  description : String := ""
  deprecated : Bool := false
  defaultValue : Option Text := none
  /-- Values worth proposing. -/
  hints : List Text := []
deriving DecidableEq, Repr

/-- The options of a component that share a group. -/
structure OptionGroup where
  id : Text
  options : List OptionSpec
deriving DecidableEq, Repr

/-- The groups of an option list in the order of their first options, every group with its options
in the given order. -/
def OptionGroup.collect (options : List OptionSpec) : List OptionGroup :=
  (distinctBy (fun group => group) (options.map (·.group))).map fun group =>
    ⟨group, options.filter fun option => option.group = group⟩

/-- A registered component and its options. -/
structure Catalog.Entry where
  component : Component
  options : List OptionSpec
deriving DecidableEq, Repr

/-- Components in the order of their registration. -/
structure Catalog where
  entries : List Catalog.Entry := []
deriving DecidableEq, Repr

namespace Catalog

/-- The catalog without components. -/
def empty : Catalog := ⟨[]⟩

/-- The registered components. -/
def components (catalog : Catalog) : List Component := catalog.entries.map (·.component)

/-- The entry of a name in a category. -/
def entry? (catalog : Catalog) (name : Text) (category : Category) : Option Entry :=
  catalog.entries.find? fun entry =>
    entry.component.name = name && entry.component.category = category

/-- The component of a name in a category. -/
def find? (catalog : Catalog) (name : Text) (category : Category) : Option Component :=
  (catalog.entry? name category).map (·.component)

/-- The options of a component, in the order of their declaration. -/
def optionsOf (catalog : Catalog) (name : Text) (category : Category) : List OptionSpec :=
  ((catalog.entry? name category).map (·.options)).getD []

/-- The options of a component by group. -/
def optionGroups (catalog : Catalog) (component : Component) : List OptionGroup :=
  OptionGroup.collect (catalog.optionsOf component.name component.category)

/-- Registers a component. Its name and the ids of its options must not be blank, and the name must
be new in its category. -/
def add (catalog : Catalog) (component : Component) (options : List OptionSpec) :
    Except CatalogProblem Catalog :=
  if Text.isAllBlank component.name then .error (.emptyIdentifier "")
  else if options.any fun option => Text.isAllBlank option.id then
    .error (.emptyIdentifier (Text.str component.name))
  else if (catalog.entry? component.name component.category).isSome then
    .error (.duplicateComponent (Text.str component.name) component.category.name)
  else .ok ⟨catalog.entries ++ [⟨component, options⟩]⟩

/-- Registers components one after the other, up to the first problem. -/
def addAll : Catalog → List Entry → Except CatalogProblem Catalog
  | catalog, [] => .ok catalog
  | catalog, entry :: rest =>
    match catalog.add entry.component entry.options with
    | .error problem => .error problem
    | .ok grown => grown.addAll rest

end Catalog

end PipeAssist
