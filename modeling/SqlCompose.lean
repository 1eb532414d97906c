import SqlCompose.Text.Words
import SqlCompose.Text.Quoted
import SqlCompose.Text.Identifier
import SqlCompose.Json.Reading
import SqlCompose.Scalar
import SqlCompose.Fragment
import SqlCompose.ColumnRef
import SqlCompose.Alias.Tree
import SqlCompose.Predicate
import SqlCompose.Projection
import SqlCompose.Query.Basic
import SqlCompose.Keys
import SqlCompose.Derive.Records
import SqlCompose.Store.Database
import SqlCompose.Script.Prepare
import SqlCompose.Script.Program
import SqlCompose.Proofs.Script.CallTree
import SqlCompose.Proofs.Script.Replay
import SqlCompose.Proofs.Derive.StoredFields
import SqlCompose.Proofs.Query.Conditions
import SqlCompose.Proofs.Query.Declarations
import SqlCompose.Proofs.Condition.Meaning
import SqlCompose.Proofs.Binding.Alignment
import SqlCompose.Proofs.Binding.Literals
import SqlCompose.Proofs.Insertion.Failures
import SqlCompose.Proofs.Insertion.Generated
import SqlCompose.Proofs.Insertion.Transactions
import SqlCompose.Proofs.Derive.Accessors
import SqlCompose.Proofs.Derive.RowChanges
import SqlCompose.Proofs.Renaming.Families
import SqlCompose.Proofs.Renaming.Templates
import SqlCompose.Proofs.Renaming.Clauses
import SqlCompose.Proofs.Renaming.Queries
import SqlCompose.Proofs.Renaming.Sessions
import SqlCompose.Proofs.Renaming.Scripts
import SqlCompose.Proofs.Renaming.Statements
import SqlCompose.Proofs.Alias.Forest
import SqlCompose.Proofs.Query.SharedCounter
import SqlCompose.Proofs.Condition.History
import SqlCompose.Proofs.Script.Conditions
import SqlCompose.Proofs.Script.Interleaving
import SqlCompose.Proofs.InPlace.Calls
import SqlCompose.Proofs.Projection.History
import SqlCompose.Proofs.Script.Selections
import SqlCompose.Proofs.Insertion.Statements
import SqlCompose.Proofs.Keys.Outcomes
import SqlCompose.Proofs.Insertion.Overflow
import SqlCompose.Proofs.Sql.Patterns
import SqlCompose.Proofs.Condition.Searches
import SqlCompose.Proofs.Derive.TypedChanges
import SqlCompose.Proofs.Condition.Negations
import SqlCompose.Proofs.Condition.Operands
import SqlCompose.Proofs.Paths
import SqlCompose.Proofs.Derive.KeyFields
import SqlCompose.Proofs.Derive.FieldChecks
import SqlCompose.Proofs.Calendar.TimeLine
