import PipeAssist.Catalog.Basic
import PipeAssist.Files
import PipeAssist.Toml.Decode

/-!
# Catalog documents

A catalog document is a TOML document with an array `component` of tables, each with an array
`option` of tables. Fields of other names are refused. The document is decoded as a whole before its
components are registered.
-/

set_option autoImplicit false

namespace PipeAssist.Catalog

open Toml

/-- An option of a document. Without a group of its own it is in the one that its id implies. -/
def decodeOption (value : Value) : Option OptionSpec := do
  match ← Decode.record true ["id", "group", "description", "deprecated", "default", "hints"] value with
  | [id, group, description, deprecated, defaultValue, hints] =>
    let id ← Decode.required Decode.text id
    some
      { id := id
        group := ← Decode.withDefault Decode.text (parentGroup id) group
        description := ← Decode.withDefault Decode.prose "" description
        deprecated := ← Decode.withDefault Decode.flag false deprecated
        defaultValue := ← Decode.optional Decode.text defaultValue
        hints := ← Decode.withDefault (Decode.list Decode.text) [] hints }
  | _ => none

/-- A component of a document. -/
def decodeEntry (value : Value) : Option Entry := do
  match ← Decode.record true ["name", "category", "metadata", "option"] value with
  | [name, category, metadata, options] =>
    let component : Component :=
      { name := ← Decode.required Decode.text name
        category := ← Decode.required (Decode.choice Category.ofName?) category
        metadata := ← Decode.optional Decode.prose metadata }
    some ⟨component, ← Decode.withDefault (Decode.list decodeOption) [] options⟩
  | _ => none

/-- The components of a document. -/
def decodeEntries (value : Value) : Option (List Entry) := do
  match ← Decode.record true ["component"] value with
  | [entries] => Decode.withDefault (Decode.list decodeEntry) [] entries
  | _ => none

/-- The catalog of a document. -/
def ofDocument (document : Text) : Except CatalogProblem Catalog :=
  match Toml.parse? document with
  | none => .error (.invalidFormat "not a TOML document")
  | some value =>
    match decodeEntries value with
    | none => .error (.invalidFormat "not a list of components")
    | some entries => empty.addAll entries

/-- The catalog of the document under a path. -/
def load {m : Type → Type} [Monad m] (read : FileReader m) (path : String) :
    m (Except Problem Catalog) := do
  match ← read path with
  | .missing => return .error (.catalog (.fileNotFound path))
  | .unreadable reason => return .error (.inputOutput reason)
  | .text document => return (ofDocument document).mapError .catalog

end PipeAssist.Catalog
