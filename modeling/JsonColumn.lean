import JsonColumn.Datum
import JsonColumn.Dialect
import JsonColumn.Expr.Basic
import JsonColumn.Expr.Write
import JsonColumn.Extraction
import JsonColumn.Fault
import JsonColumn.Identifier
import JsonColumn.Operator
import JsonColumn.Options
import JsonColumn.Path.Basic
import JsonColumn.Path.Reader
import JsonColumn.Path.Source
import JsonColumn.Proofs.Expr.Built
import JsonColumn.Proofs.Expr.Context
import JsonColumn.Proofs.Expr.Lead
import JsonColumn.Proofs.Expr.Placeholders
import JsonColumn.Proofs.Expr.Sound
import JsonColumn.Proofs.Expr.Truth
import JsonColumn.Proofs.Expr.Values
import JsonColumn.Proofs.Expr.Writing
import JsonColumn.Proofs.Fault.Messages
import JsonColumn.Proofs.Outcome
import JsonColumn.Proofs.Path.Depth
import JsonColumn.Proofs.Path.Diagnosis
import JsonColumn.Proofs.Path.Faults
import JsonColumn.Proofs.Path.Items
import JsonColumn.Proofs.Path.KeyBlocks
import JsonColumn.Proofs.Path.KeyText
import JsonColumn.Proofs.Path.Parts
import JsonColumn.Proofs.Path.Quotes
import JsonColumn.Proofs.Path.ReaderState
import JsonColumn.Proofs.Path.Reading
import JsonColumn.Proofs.Path.RoundTrip
import JsonColumn.Proofs.Path.Separators
import JsonColumn.Proofs.Path.Stability
import JsonColumn.Proofs.Select.Calls
import JsonColumn.Proofs.Sql.Containment
import JsonColumn.Proofs.Sql.Decoding
import JsonColumn.Proofs.Sql.Extraction
import JsonColumn.Proofs.Sql.Formula
import JsonColumn.Proofs.Sql.Lexeme
import JsonColumn.Proofs.Sql.Placeholder
import JsonColumn.Proofs.Text.Paired
import JsonColumn.Proofs.TypeName.Grammar
import JsonColumn.Select
import JsonColumn.Text.Basic
import JsonColumn.Text.Characters
import JsonColumn.Traced
import JsonColumn.Version
