import ParamSql.Session
import ParamSql.Wire.Binary
import ParamSql.Wire.Reply
import ParamSql.Proofs.Placeholders
import ParamSql.Proofs.Renumbering
import ParamSql.Proofs.BoundValues
import ParamSql.Proofs.Boolean.Enclosure
import ParamSql.Proofs.Reported
import ParamSql.Proofs.Filtered
import ParamSql.Proofs.Counting
import ParamSql.Proofs.Counting.Clauses
import ParamSql.Proofs.Assigned
import ParamSql.Proofs.Conflict
import ParamSql.Proofs.Keyed
import ParamSql.Proofs.Batch.Update
import ParamSql.Proofs.Batch.Insert
import ParamSql.Proofs.Quoted
import ParamSql.Proofs.Quoted.Statements
import ParamSql.Proofs.Quoted.Queries
import ParamSql.Proofs.Named.Rule
import ParamSql.Proofs.Named.Scanner
import ParamSql.Proofs.Named.Binding
import ParamSql.Proofs.Dialects
import ParamSql.Proofs.Dialects.Statements
import ParamSql.Proofs.Dialects.Agreement
import ParamSql.Proofs.Sending
import ParamSql.Proofs.Creation
import ParamSql.Proofs.Creation.ReportedKeys
import ParamSql.Proofs.Traffic
import ParamSql.Proofs.Layout.Calls
import ParamSql.Proofs.Identifier.Quoted
import ParamSql.Proofs.Identifier.Plain
import ParamSql.Proofs.Template.Runs
import ParamSql.Proofs.Absorbed.Calls
import ParamSql.Proofs.Blank.Select
import ParamSql.Proofs.Identifier.Settled
import ParamSql.Proofs.Fetching
import ParamSql.Proofs.Wire
import ParamSql.Proofs.Nesting.Queries
import ParamSql.Proofs.Splicing
import ParamSql.Proofs.Truncation
import ParamSql.Proofs.Emptiness
import ParamSql.Proofs.Deadlines
