import SchemaAtlas.Main
import SchemaAtlas.Schema.Session
import SchemaAtlas.Proofs.Schema.Inference
import SchemaAtlas.Proofs.Sql.Definitions
import SchemaAtlas.Proofs.Sql.Reading
import SchemaAtlas.Proofs.Sql.Continuation
import SchemaAtlas.Proofs.Schema.Ids
import SchemaAtlas.Proofs.Schema.WellFormed
import SchemaAtlas.Proofs.Text.Word
import SchemaAtlas.Proofs.Sql.WellFormed
import SchemaAtlas.Proofs.Sql.Boundaries
import SchemaAtlas.Proofs.Sql.Quiet
import SchemaAtlas.Proofs.Sql.Quoting
import SchemaAtlas.Proofs.Sql.Intact
import SchemaAtlas.Proofs.Sql.RoundTrip
import SchemaAtlas.Proofs.Layout.Placement
import SchemaAtlas.Proofs.Schema.Editing
import SchemaAtlas.Proofs.Schema.Reloading
import SchemaAtlas.Proofs.Layout.Dependence
import SchemaAtlas.Proofs.Sql.Reordering
import SchemaAtlas.Proofs.Sql.Identifiers
import SchemaAtlas.Proofs.Sql.Grammar
import SchemaAtlas.Proofs.Sql.GrammarColumns
import SchemaAtlas.Proofs.Sql.GrammarClauses
import SchemaAtlas.Proofs.Sql.GrammarStatements
import SchemaAtlas.Proofs.Sql.Insertions
import SchemaAtlas.Proofs.Sql.Literals
import SchemaAtlas.Proofs.Schema.Connecting
import SchemaAtlas.Proofs.Sql.ColumnFlags
import SchemaAtlas.Proofs.Schema.DrawnKinds
import SchemaAtlas.Proofs.Sql.ColumnIds
import SchemaAtlas.Proofs.Terminal.Markings
import SchemaAtlas.Proofs.Text.Utf8
import SchemaAtlas.Proofs.Json.Printed
import SchemaAtlas.Proofs.Command.Running
import SchemaAtlas.Proofs.Sql.CommentTexts
import SchemaAtlas.Proofs.Command.Diagrams
import SchemaAtlas.Proofs.Command.Saving
import SchemaAtlas.Proofs.Endings
import SchemaAtlas.Proofs.Number.Range
import SchemaAtlas.Proofs.Value.Amounts
import SchemaAtlas.Proofs.Layout.Totality
import SchemaAtlas.Proofs.Schema.Shapes
import SchemaAtlas.Proofs.Command.Documents
import SchemaAtlas.Proofs.Layout.LongestPaths
import SchemaAtlas.Proofs.Layout.Sweeps
import SchemaAtlas.Proofs.Layout.Lookups
import SchemaAtlas.Proofs.Schema.InferredEdges
import SchemaAtlas.Proofs.Sql.Parentheses
import SchemaAtlas.Proofs.Sql.Splitting
import SchemaAtlas.Proofs.Sql.Headers
import SchemaAtlas.Proofs.Sql.ClauseOrder
import SchemaAtlas.Proofs.Layout.Mirroring
import SchemaAtlas.Proofs.Schema.Removal
import SchemaAtlas.Proofs.Schema.Copies
import SchemaAtlas.Proofs.Sql.TableNames
import SchemaAtlas.Proofs.Sql.RespacedStatements
import SchemaAtlas.Proofs.Sql.DatabaseTables
import SchemaAtlas.Proofs.Sql.QuotedPattern
import SchemaAtlas.Proofs.Schema.Highlighting
import SchemaAtlas.Proofs.Schema.CopiedColumns
import SchemaAtlas.Proofs.Sql.Decoding
import SchemaAtlas.Proofs.Sql.Rescanning
