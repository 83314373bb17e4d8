import SetQuery.Main
import SetQuery.Session
import SetQuery.Proofs.Capability.Approval
import SetQuery.Proofs.Capability.Configured
import SetQuery.Proofs.Capability.Gating
import SetQuery.Proofs.Expr.BuriedOrder
import SetQuery.Proofs.Expr.ColumnOrder
import SetQuery.Proofs.Expr.Embedding
import SetQuery.Proofs.Expr.EvaluationOrder
import SetQuery.Proofs.Expr.OrderPolicy
import SetQuery.Proofs.Expr.Pieces
import SetQuery.Proofs.Expr.SelectList
import SetQuery.Proofs.Expr.TypeNames
import SetQuery.Proofs.Meaning.Denotation
import SetQuery.Proofs.Meaning.Emulation
import SetQuery.Proofs.PlanFile.Build
import SetQuery.Proofs.Renaming.Template
import SetQuery.Proofs.Schema.Mismatch
import SetQuery.Proofs.Sql.Freshness
import SetQuery.Proofs.SortedMap
import SetQuery.Proofs.SqlType.Reader
import SetQuery.Proofs.Text.LowerCase
import SetQuery.Proofs.Dialect.Identifier
import SetQuery.Proofs.Text.Numeral
import SetQuery.Proofs.Dialect.Paging
import SetQuery.Proofs.Expr.Reports
import SetQuery.Proofs.Sql.Outermost
import SetQuery.Proofs.Expr.KeptOrder
import SetQuery.Proofs.Schema.Json
import SetQuery.Proofs.Text.Columns
import SetQuery.Proofs.Sql.MessagePosition
import SetQuery.Proofs.SqlType.Parameters
