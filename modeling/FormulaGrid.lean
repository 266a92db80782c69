import FormulaGrid.Command.Run
import FormulaGrid.Evaluation.Basic
import FormulaGrid.Formula.Check
import FormulaGrid.Host
import FormulaGrid.Log.Sink
import FormulaGrid.Log.Stamp
import FormulaGrid.Main
import FormulaGrid.Parser.Session
import FormulaGrid.Position.Basic
import FormulaGrid.Proofs.Agreement
import FormulaGrid.Proofs.Context
import FormulaGrid.Proofs.Cycle
import FormulaGrid.Proofs.Dependency
import FormulaGrid.Proofs.Exactness
import FormulaGrid.Proofs.Inlining
import FormulaGrid.Proofs.Position.Reference
import FormulaGrid.Proofs.Sheet.Equations
import FormulaGrid.Proofs.Sheet.History
import FormulaGrid.Proofs.Sheet.Shape
import FormulaGrid.Proofs.Splice
import FormulaGrid.Sheet.Load
import FormulaGrid.Proofs.Parser.Evaluation
import FormulaGrid.Proofs.Parser.Session
import FormulaGrid.Proofs.Parallel
import FormulaGrid.Proofs.Stability
import FormulaGrid.Proofs.Sheet.Mapping
import FormulaGrid.Proofs.Termination
import FormulaGrid.Proofs.Sheet.Edits
import FormulaGrid.Proofs.Rendering
import FormulaGrid.Proofs.Sheet.Reporting
import FormulaGrid.Proofs.Decimal.Double
import FormulaGrid.Proofs.Decimal.Numeral
import FormulaGrid.Proofs.Json.Text
import FormulaGrid.Proofs.Json.Document
import FormulaGrid.Proofs.Json.Plain
import FormulaGrid.Proofs.Json.Keys
import FormulaGrid.Proofs.Log.Framing
import FormulaGrid.Proofs.Log.Record
import FormulaGrid.Proofs.Log.History
import FormulaGrid.Proofs.Segmentation
import FormulaGrid.Proofs.Pushdown.Relocation
import FormulaGrid.Proofs.Layout
import FormulaGrid.Proofs.Sheet.Refusal
import FormulaGrid.Proofs.Sheet.Lookup
import FormulaGrid.Proofs.Precision
import FormulaGrid.Proofs.Provenance
import FormulaGrid.Proofs.Depth
import FormulaGrid.Proofs.Extraction
import FormulaGrid.Proofs.Decimal.NumericText
import FormulaGrid.Proofs.Decimal.Display
import FormulaGrid.Proofs.Extremes
import FormulaGrid.Proofs.Position.Spelling
import FormulaGrid.Proofs.Position.Column
import FormulaGrid.Proofs.Log.Tail
import FormulaGrid.Proofs.Log.Foreign
import FormulaGrid.Proofs.Sheet.Loading
import FormulaGrid.Proofs.Blame
import FormulaGrid.Proofs.Parser.Cursor
import FormulaGrid.Proofs.Sheet.Order
import FormulaGrid.Proofs.Sheet.Spelling
