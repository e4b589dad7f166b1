import SqlRequest.Gateway.Scripted
import SqlRequest.Main
import SqlRequest.Proofs.CommandLine
import SqlRequest.Proofs.Condition.Empty
import SqlRequest.Proofs.Condition.Qualified
import SqlRequest.Proofs.Decimal.Doubles
import SqlRequest.Proofs.Decimal.Rounding
import SqlRequest.Proofs.Decode.Digits
import SqlRequest.Proofs.Decode.Forms
import SqlRequest.Proofs.Decode.FrontEnds
import SqlRequest.Proofs.Decode.NumberCondition
import SqlRequest.Proofs.Decode.ReadBack
import SqlRequest.Proofs.Decode.Tag
import SqlRequest.Proofs.Decode.Whole
import SqlRequest.Proofs.Decode.Words
import SqlRequest.Proofs.Engine.Debug
import SqlRequest.Proofs.Engine.Delete
import SqlRequest.Proofs.Engine.Get
import SqlRequest.Proofs.Engine.Insert
import SqlRequest.Proofs.Engine.Operation
import SqlRequest.Proofs.Engine.Retold
import SqlRequest.Proofs.Engine.Use
import SqlRequest.Proofs.Gateway.Cursor
import SqlRequest.Proofs.Gateway.Ledger
import SqlRequest.Proofs.Json.Flaws
import SqlRequest.Proofs.Json.Numeral
import SqlRequest.Proofs.Json.Reading
import SqlRequest.Proofs.OrderedMap
import SqlRequest.Proofs.Payload
import SqlRequest.Proofs.Predicate.Clause
import SqlRequest.Proofs.Predicate.Fallback
import SqlRequest.Proofs.Quotation.Distinct
import SqlRequest.Proofs.Quotation.Pieces
import SqlRequest.Proofs.Quotation.Scan
import SqlRequest.Proofs.Quotation.Statement
import SqlRequest.Proofs.Records.Copies
import SqlRequest.Proofs.Records.Folding
import SqlRequest.Proofs.Records.Grouped
import SqlRequest.Proofs.Records.Refolding
import SqlRequest.Proofs.Request
import SqlRequest.Proofs.Request.Building
import SqlRequest.Proofs.Settings.Dsn
import SqlRequest.Proofs.Settings.Load
