import SchemaDraft.Blueprint.Calls
import SchemaDraft.Blueprint.Compile
import SchemaDraft.Blueprint.Json
import SchemaDraft.CommandLine.Run
import SchemaDraft.Connection.Parameters
import SchemaDraft.Database.Apply
import SchemaDraft.Database.Catalog
import SchemaDraft.Document
import SchemaDraft.Json.Printer
import SchemaDraft.Json.Reader
import SchemaDraft.Main
import SchemaDraft.Proofs.Blueprint.Acceptance
import SchemaDraft.Proofs.Blueprint.Arrangement
import SchemaDraft.Proofs.Blueprint.Carrier
import SchemaDraft.Proofs.Blueprint.Guard
import SchemaDraft.Proofs.Blueprint.Identifiers
import SchemaDraft.Proofs.Blueprint.InlineIndex
import SchemaDraft.Proofs.Blueprint.Invariant
import SchemaDraft.Proofs.Blueprint.Naming
import SchemaDraft.Proofs.Blueprint.Origins
import SchemaDraft.Proofs.Blueprint.Outcome
import SchemaDraft.Proofs.Blueprint.PlainColumns
import SchemaDraft.Proofs.CommandLine.Output
import SchemaDraft.Proofs.Condition.Evaluation
import SchemaDraft.Proofs.Condition.Fragment
import SchemaDraft.Proofs.Condition.Negation
import SchemaDraft.Proofs.Condition.Reader
import SchemaDraft.Proofs.Database.Execution
import SchemaDraft.Proofs.Document.Grouping
import SchemaDraft.Proofs.Document.Loading
import SchemaDraft.Proofs.Script
import SchemaDraft.Proofs.Sql.Respelling
import SchemaDraft.Sql.Postgres
import SchemaDraft.Text.Lowercase
import SchemaDraft.Proofs.Index.Statement
import SchemaDraft.Proofs.Literal.Boundary
import SchemaDraft.Proofs.Statement.Table
import SchemaDraft.Proofs.Table.Element
import SchemaDraft.Proofs.Table.Like
import SchemaDraft.Proofs.Statement.Trigger
import SchemaDraft.Proofs.Statement.Partition
import SchemaDraft.Proofs.Literal.Reading
import SchemaDraft.Proofs.Index.Identifier
