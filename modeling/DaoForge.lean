import DaoForge.Main
import DaoForge.Output.Memory
import DaoForge.Row.Adapter
import DaoForge.Row.Cursor
import DaoForge.Row.Query
import DaoForge.Proofs.Closed
import DaoForge.Proofs.Compile
import DaoForge.Proofs.Disk
import DaoForge.Proofs.Output.FileSink
import DaoForge.Proofs.Output.Memory
import DaoForge.Proofs.Query.Arguments
import DaoForge.Proofs.Query.Grammar
import DaoForge.Proofs.Query.Marks
import DaoForge.Proofs.Query.Scan
import DaoForge.Proofs.Query.Segments
import DaoForge.Proofs.Resolve.Answers
import DaoForge.Proofs.Resolve.Calls
import DaoForge.Proofs.Resolve.Converters
import DaoForge.Proofs.Resolve.Operation
import DaoForge.Proofs.Resolve.Row
import DaoForge.Proofs.Resolve.Schema
import DaoForge.Proofs.Sql.Write
import DaoForge.Proofs.Unit.Composing
import DaoForge.Proofs.Unit.Reference
import DaoForge.Proofs.Unit.Write
import DaoForge.Proofs.Mark
import DaoForge.Proofs.Resolve.Consistent
import DaoForge.Proofs.Resolve.Complete
import DaoForge.Proofs.Unit.Adapter
import DaoForge.Proofs.Wiring
import DaoForge.Proofs.Unit.Faults
import DaoForge.Proofs.Resolve.Buildable
import DaoForge.Proofs.Faults
import DaoForge.Proofs.Resolve.Report
import DaoForge.Proofs.Unit.Columns
import DaoForge.Proofs.Output.History
import DaoForge.Proofs.Output.Rerun
import DaoForge.Proofs.Resolve.Isolation
import DaoForge.Proofs.Resolve.Signature
import DaoForge.Proofs.Unit.Scope
import DaoForge.Proofs.Resolve.Embedding
import DaoForge.Proofs.Resolve.IndexNames
import DaoForge.Proofs.Fields
import DaoForge.Proofs.Emission
import DaoForge.Proofs.Resolve.Flatten
import DaoForge.Proofs.Resolve.Key
import DaoForge.Proofs.Sql.KeyClause
import DaoForge.Proofs.Unit.Grammar
import DaoForge.Proofs.Query.Keyword
import DaoForge.Proofs.Resolve.Placeholder
import DaoForge.Proofs.Resolve.Alone
import DaoForge.Proofs.Resolve.Related
import DaoForge.Proofs.Resolve.Target
import DaoForge.Proofs.Skipped
import DaoForge.Proofs.Unit.Storage
import DaoForge.Proofs.Unit.Holder
import DaoForge.Proofs.References
import DaoForge.Proofs.Declaration.Normal
import DaoForge.Proofs.Declaration.Catalog
import DaoForge.Proofs.Declaration.Document
import DaoForge.Proofs.Mark.Kept
import DaoForge.Proofs.Mark.Order
import DaoForge.Proofs.Row.Query
import DaoForge.Proofs.Sql.Identifier
