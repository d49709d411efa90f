import ColumnLineage.Text.Alphabetic
import ColumnLineage.Text.Numeric
import ColumnLineage.Text.Printable
import ColumnLineage.Sql.Dialect
import ColumnLineage.Sql.Keyword
import ColumnLineage.Sql.Token
import ColumnLineage.Sql.Lexer
import ColumnLineage.Sql.Syntax
import ColumnLineage.Text.Quoted
import ColumnLineage.Sql.Render
import ColumnLineage.Sql.Parse.Cursor
import ColumnLineage.Sql.Parse.Column
import ColumnLineage.Sql.Parse.DataType
import ColumnLineage.Sql.Parse.Expr
import ColumnLineage.Sql.Parse.Relation
import ColumnLineage.Sql.Parse.Query
import ColumnLineage.Sql.Parse.Command
import ColumnLineage.Sql.Parse.Schema
import ColumnLineage.Sql.Parse.Routine
import ColumnLineage.Sql.Parse.Stage
import ColumnLineage.Sql.Parse.Statement
import ColumnLineage.Sql.Read
import ColumnLineage.Text.Words
import ColumnLineage.Log.Event
import ColumnLineage.Log.Filter
import ColumnLineage.Lineage.Model
import ColumnLineage.Lineage.Catalog
import ColumnLineage.Lineage.Arena
import ColumnLineage.Lineage.Bindings
import ColumnLineage.Lineage.Detector
import ColumnLineage.Lineage.Resolve
import ColumnLineage.Lineage.Analyze
import ColumnLineage.Text.Json
import ColumnLineage.Report.Json
import ColumnLineage.Config.Basic
import ColumnLineage.Text.Float
import ColumnLineage.Yaml.Scanner
import ColumnLineage.Yaml.Events
import ColumnLineage.Config.Yaml
import ColumnLineage.Report.Text
import ColumnLineage.Cli.Files
import ColumnLineage.Cli.Arguments
import ColumnLineage.Cli.Commands
import ColumnLineage.Main
import ColumnLineage.Proofs.Run
import ColumnLineage.Proofs.FreshResolve
import ColumnLineage.Proofs.Evaluate
import ColumnLineage.Proofs.Memo
import ColumnLineage.Proofs.Renaming
import ColumnLineage.Proofs.ResolveRenaming
import ColumnLineage.Proofs.DetectSteps
import ColumnLineage.Proofs.WalkFrame
import ColumnLineage.Proofs.ClosedWalk
import ColumnLineage.Proofs.PairedSteps
import ColumnLineage.Proofs.PairedWalk
import ColumnLineage.Proofs.Balance
import ColumnLineage.Proofs.Mentions
import ColumnLineage.Proofs.SoundArena
import ColumnLineage.Proofs.SoundWalk
import ColumnLineage.Proofs.Derivation
import ColumnLineage.Proofs.Provenance
import ColumnLineage.Proofs.Acyclic
import ColumnLineage.Proofs.PairedLineage
import ColumnLineage.Proofs.Conditions
import ColumnLineage.Proofs.Wrapping
import ColumnLineage.Proofs.WalkInduction
import ColumnLineage.Proofs.DepthLimit
import ColumnLineage.Proofs.ScopeStack
import ColumnLineage.Proofs.UsingFanIn
import ColumnLineage.Proofs.Lifecycle
import ColumnLineage.Proofs.SetOperands
import ColumnLineage.Proofs.SetOperationLineage
import ColumnLineage.Proofs.Visibility
import ColumnLineage.Proofs.TableWildcard
import ColumnLineage.Proofs.UnreadOutputs
import ColumnLineage.Proofs.AliasLineage
import ColumnLineage.Proofs.CatalogHistory
import ColumnLineage.Proofs.LineageGraph
import ColumnLineage.Proofs.StatementReport
import ColumnLineage.Proofs.SubqueryScopes
import ColumnLineage.Proofs.ScopeOutline
import ColumnLineage.Proofs.LexicalScoping
import ColumnLineage.Proofs.ResolveOutcomes
