import PipeAssist.Catalog.Directory
import PipeAssist.Completion.Proposal
import PipeAssist.Report.Json
import PipeAssist.Report.Paint
import PipeAssist.Report.Table

/-!
# Reports

Proposals and catalogs as plain text, as JSON or as tables, with or without colours.
-/

set_option autoImplicit false

namespace PipeAssist

/-- The forms of reports. -/
inductive Report.Format where
  | text
  | json
  | table
deriving DecidableEq, Repr

namespace Report.Format

/-- The name of a form. -/
def name : Format → String
  | .text => "text"
  | .json => "json"
  | .table => "table"

/-- The form of a name. -/
def ofName? (name : String) : Option Format :=
  [Format.text, .json, .table].find? fun format => format.name = name

/-- The form of a name in capital or small letters. The names are of basic Latin letters, and no
other character becomes one of theirs as a small letter. -/
def ofAnyCase? (name : String) : Option Format := ofName? name.toLower

end Report.Format

/-- How reports are made. -/
structure Report where
  format : Report.Format
  colors : Bool
deriving DecidableEq, Repr

/-- A component and all its options, group by group. -/
structure Directory.Listing where
  component : Component
  options : List OptionSpec
deriving DecidableEq, Repr

/-- All components of a directory with their options. -/
def Directory.listings (directory : Directory) : List Directory.Listing :=
  directory.components.map fun component => ⟨component, directory.options component⟩

namespace Report

/-- The greatest width of a table column unless another one is asked for. -/
def defaultLimit : Nat := 60

/-- A text in a style, if colours are wanted. -/
def paint (report : Report) (style : Style) (text : String) : String :=
  if report.colors then style.paint text else text

/-- An error message. -/
def error (report : Report) (message : String) : String :=
  report.paint (.boldColored .red) message

/-- Proposals as text: one a line, padded to the longest, with their explanations. -/
def proposalsText (report : Report) (proposals : List Proposal) : String :=
  if proposals = [] then report.paint { dimmed := true } "(no proposals)"
  else
    let width := (proposals.map fun proposal => proposal.text.length).foldl max 0
    let line (proposal : Proposal) : String :=
      if proposal.explanation = "" then report.paint { bold := true } (Text.str proposal.text)
      else
        let padded := proposal.text ++ List.replicate (width - proposal.text.length) ' '
        report.paint { bold := true } (Text.str padded) ++ "  " ++
          report.paint (.colored .darkGray) proposal.explanation
    String.intercalate "\n" (proposals.map line)

/-- A proposal as JSON. -/
def proposalJson (proposal : Proposal) : Json :=
  .object [("text", .text (Text.str proposal.text)), ("explanation", .text proposal.explanation)]

/-- Proposals as a numbered table. -/
def proposalsTable (limit : Nat) (colors : Bool) (proposals : List Proposal) : String :=
  if proposals = [] then "(no proposals)"
  else
    let row (entry : Proposal × Nat) : List Text :=
      [(toString (entry.2 + 1)).toList, entry.1.text, entry.1.explanation.toList]
    Text.str <| Table.render
      { header := ["#".toList, "proposal".toList, "explanation".toList]
        rows := proposals.zipIdx.map row
        limit := limit
        colors := colors }

/-- Proposals in the form of the report. -/
def proposals (report : Report) (proposals : List Proposal) : String :=
  match report.format with
  | .text => report.proposalsText proposals
  | .json => (Json.array (proposals.map proposalJson)).pretty
  | .table => proposalsTable defaultLimit report.colors proposals

/-- An option of a listing as a line of text. -/
def optionLine (option : OptionSpec) : String :=
  let value :=
    match option.defaultValue with
    | none => ""
    | some value => "=" ++ Text.str value
  let mark := if option.deprecated then " [deprecated]" else ""
  let description := if option.description = "" then "" else "  " ++ option.description
  "  --" ++ Text.str option.id ++ value ++ mark ++ description

/-- A catalog as text: a line for every component and below it one for every option. -/
def catalogText (report : Report) (listings : List Directory.Listing) : String :=
  String.intercalate "\n" <| listings.flatMap fun listing =>
    let name := report.paint (.boldColored .cyan) (Text.str listing.component.name)
    let category :=
      report.paint (.colored .darkGray) ("(" ++ listing.component.category.name ++ ")")
    (name ++ " " ++ category) :: listing.options.map optionLine

/-- An option of a listing as JSON. -/
def optionJson (option : OptionSpec) : Json :=
  .object
    [("id", .text (Text.str option.id)), ("group", .text (Text.str option.group)),
     ("description", .text option.description), ("deprecated", .boolean option.deprecated),
     ("default_value", (option.defaultValue.map fun value => Json.text (Text.str value)).getD .null),
     ("hints", .array (option.hints.map fun hint => Json.text (Text.str hint)))]

/-- A component with its options as JSON. -/
def listingJson (listing : Directory.Listing) : Json :=
  let metadata :=
    match listing.component.metadata with
    | none => []
    | some metadata => [("metadata", Json.text metadata)]
  .object
    ([("name", .text (Text.str listing.component.name)),
      ("category", .text listing.component.category.name)] ++ metadata ++
     [("options", .array (listing.options.map optionJson))])

/-- A catalog as a table: a row for every option, and one for a component without options. -/
def catalogTable (limit : Nat) (colors : Bool) (listings : List Directory.Listing) : String :=
  if listings = [] then "(empty catalog)"
  else
    let optionCells (option : OptionSpec) : List Text :=
      [option.id, option.defaultValue.getD [],
       (option.description ++ if option.deprecated then " (deprecated)" else "").toList]
    let rows (listing : Directory.Listing) : List (List Text) :=
      let cells := if listing.options = [] then [[[], [], []]] else listing.options.map optionCells
      cells.map fun rest =>
        listing.component.name :: listing.component.category.name.toList :: rest
    Text.str <| Table.render
      { header := ["component".toList, "category".toList, "option".toList, "default".toList,
          "description".toList]
        rows := listings.flatMap rows
        limit := limit
        colors := colors }

/-- A catalog in the form of the report. -/
def catalog (report : Report) (listings : List Directory.Listing) : String :=
  match report.format with
  | .text => report.catalogText listings
  | .json => (Json.array (listings.map listingJson)).pretty
  | .table => catalogTable defaultLimit report.colors listings

end Report

end PipeAssist
