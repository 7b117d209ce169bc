import PipeAssist.Catalog.Basic
import PipeAssist.Definition

/-!
# Directories

A directory answers what completion asks about components: which ones there are, which one a name
and a category denote, which options it has, and which categories may stand at a place of a
pipeline. On these four answers rest the questions that depend on the place: the components that can
stand there, the one that a name means there, and the options that are not used yet.
-/

set_option autoImplicit false

namespace PipeAssist

/-- The answers that completion needs. -/
structure Directory where
  components : List Component
  find? : Text → Category → Option Component
  optionGroups : Component → List OptionGroup
  /-- The categories that may follow a definition, the preferred ones first. -/
  categoriesAfter : Definition → List Category

/-- Rules for the categories that may stand at a place. -/
inductive StagePolicy where
  /-- Sources and apps first, then processors, sinks and apps. -/
  | byPosition
  /-- The same categories everywhere. -/
  | constant (categories : List Category)
deriving DecidableEq, Repr

/-- The categories that may follow a definition. -/
def StagePolicy.categoriesAfter : StagePolicy → Definition → List Category
  | .byPosition, [] => [.source, .app]
  | .byPosition, _ :: _ => [.processor, .sink, .app]
  | .constant categories, _ => categories

namespace Directory

/-- The directory of a catalog under a stage policy. -/
def ofCatalog (catalog : Catalog) (policy : StagePolicy) : Directory where
  components := catalog.components
  find? := catalog.find?
  optionGroups := catalog.optionGroups
  categoriesAfter := policy.categoriesAfter

/-- The same directory without knowledge of options. -/
def withoutOptions (directory : Directory) : Directory :=
  { directory with optionGroups := fun _ => [] }

/-- The components that can follow a definition: category by category, in the order of their
registration, every name once. -/
def componentsAfter (directory : Directory) (definition : Definition) : List Component :=
  distinctBy (·.name) <| (directory.categoriesAfter definition).flatMap fun category =>
    directory.components.filter fun component => component.category = category

/-- The component that a name denotes after a definition. -/
def resolveAfter (directory : Directory) (name : Text) (definition : Definition) :
    Option Component :=
  (directory.categoriesAfter definition).findSome? fun category => directory.find? name category

/-- The component that the last use of a definition denotes. -/
def resolveLast (directory : Directory) (definition : Definition) : Option Component :=
  match definition.getLast? with
  | none => none
  | some use => directory.resolveAfter use.name definition.dropLast

/-- All options of a component, group by group. -/
def options (directory : Directory) (component : Component) : List OptionSpec :=
  (directory.optionGroups component).flatMap (·.options)

/-- Whether an option can still be supplied: it is not used yet, and it is not deprecated unless
deprecated options are wanted. -/
def isAvailable (withDeprecated : Bool) (use : ComponentUse) (option : OptionSpec) : Bool :=
  (withDeprecated || !option.deprecated) && !use.hasOption option.id

/-- The options of a component that can still be supplied. -/
def unusedOptions (directory : Directory) (withDeprecated : Bool) (component : Component)
    (use : ComponentUse) : List OptionSpec :=
  (directory.options component).filter (isAvailable withDeprecated use)

/-- The number of components in words. -/
def summary (directory : Directory) : String :=
  "Lookups \x7b components: " ++ toString directory.components.length ++ ", .. \x7d"

end Directory

end PipeAssist
