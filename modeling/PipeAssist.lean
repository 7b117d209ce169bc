import PipeAssist.Catalog.Builtin
import PipeAssist.Catalog.Document
import PipeAssist.Settings.Document
import PipeAssist.Shell.Script
import PipeAssist.Shell.Highlight
import PipeAssist.Shell.Hint
import PipeAssist.Shell.Editor
import PipeAssist.Main
import PipeAssist.Proofs.Characters
import PipeAssist.Proofs.Literals
import PipeAssist.Proofs.Pieces
import PipeAssist.Proofs.Tokens
import PipeAssist.Proofs.Checkpoints
import PipeAssist.Proofs.Endings
import PipeAssist.Proofs.Replay
import PipeAssist.Proofs.Grammar
import PipeAssist.Proofs.Meanings
import PipeAssist.Proofs.Spellings
import PipeAssist.Proofs.Distinct
import PipeAssist.Proofs.Repairs
import PipeAssist.Proofs.Resumption
import PipeAssist.Proofs.Derivations
import PipeAssist.Proofs.Progress
import PipeAssist.Proofs.DetailCap
import PipeAssist.Proofs.TrailingBlanks
import PipeAssist.Proofs.Validity
import PipeAssist.Proofs.AcceptedLines
import PipeAssist.Proofs.OptionNames
import PipeAssist.Proofs.OptionPaths
import PipeAssist.Proofs.SuggestedValues
import PipeAssist.Proofs.Retention
import PipeAssist.Proofs.OptionMarkers
import PipeAssist.Proofs.Shapes
import PipeAssist.Proofs.Registrations
import PipeAssist.Proofs.Extensions
import PipeAssist.Proofs.CatalogGrowth
import PipeAssist.Proofs.Closings
import PipeAssist.Proofs.Continuations
import PipeAssist.Proofs.Spans
import PipeAssist.Proofs.Roles
import PipeAssist.Proofs.Resolution
import PipeAssist.Proofs.Groupings
import PipeAssist.Proofs.LineParts
import PipeAssist.Proofs.LastingFaults
import PipeAssist.Proofs.Stability
import PipeAssist.Proofs.Descent
import PipeAssist.Proofs.Locality
import PipeAssist.Proofs.Hints
import PipeAssist.Proofs.Scripts
import PipeAssist.Proofs.OpenLiterals
import PipeAssist.Proofs.StrategyCaps
