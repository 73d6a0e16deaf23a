import DialogGate.Expr.Cursor
import DialogGate.Main
import DialogGate.Proofs.Binary64.Nearest
import DialogGate.Proofs.Binary64.Shortest
import DialogGate.Proofs.Binary64.Whole
import DialogGate.Proofs.Choice.NamedVariables
import DialogGate.Proofs.Choice.Resolution
import DialogGate.Proofs.Choice.StoreIndependence
import DialogGate.Proofs.Command.Agreement
import DialogGate.Proofs.Command.Shape
import DialogGate.Proofs.Exchange.Shape
import DialogGate.Proofs.Exchange.Table
import DialogGate.Proofs.Expr.Canonical
import DialogGate.Proofs.Expr.Composition
import DialogGate.Proofs.Expr.Cursor
import DialogGate.Proofs.Expr.CursorRun
import DialogGate.Proofs.Expr.Failure
import DialogGate.Proofs.Expr.Faultless
import DialogGate.Proofs.Expr.Grammar
import DialogGate.Proofs.Expr.Image
import DialogGate.Proofs.Expr.Index
import DialogGate.Proofs.Expr.Literals
import DialogGate.Proofs.Expr.Negations
import DialogGate.Proofs.Expr.Number
import DialogGate.Proofs.Expr.Operand
import DialogGate.Proofs.Expr.Respelling
import DialogGate.Proofs.Expr.Sentence
import DialogGate.Proofs.Expr.Unterminated
import DialogGate.Proofs.Json.Keys
import DialogGate.Proofs.Label.Extraction
import DialogGate.Proofs.Label.Regions
import DialogGate.Proofs.Label.Remainder
import DialogGate.Proofs.Operator.Closing
import DialogGate.Proofs.Operator.Loosest
import DialogGate.Proofs.Operator.Outside
import DialogGate.Proofs.Operator.Positions
import DialogGate.Proofs.Operator.Scan
import DialogGate.Proofs.Operator.Unclosed
import DialogGate.Proofs.Text.FirstOccurrence
import DialogGate.Proofs.Text.Keyword
import DialogGate.Proofs.Text.Numeral
import DialogGate.Proofs.Text.Slice
import DialogGate.Proofs.Text.Trim
import DialogGate.Proofs.Text.Utf8
import DialogGate.Session
