import FormulaGrid.Text.Blank
import FormulaGrid.Value

/-! What a formula may see of the cells it refers to. -/
namespace FormulaGrid

open FormulaGrid.Text

/-- What shows of a cell: its text and the value it last had. -/
structure Snapshot where
  reference : String
  rawExpression : String
  cachedValue : Value
  deriving DecidableEq, Repr

/-- Whether text is a formula for those who refer to its cell: after leading whitespace it starts
with an equals sign. -/
def startsFormula (text : String) : Bool :=
  (dropBlank text.toList).head? == some '='

def Snapshot.isFormula (cell : Snapshot) : Bool :=
  startsFormula cell.rawExpression

abbrev Accessor := String → Option Snapshot

end FormulaGrid
