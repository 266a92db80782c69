import FormulaGrid.Decimal.Arithmetic
import FormulaGrid.Decimal.Text

/-! The values of formulas and of cells, and how each counts as a number, as a truth value and as
text. -/
namespace FormulaGrid

open FormulaGrid.Text

inductive Value where
  | number (value : Decimal)
  | boolean (value : Bool)
  | text (value : String)
  | empty
  deriving DecidableEq, Repr

namespace Value

/-- The value as a number: truth values count as one and zero, numeric text as its number, and all
else as zero. -/
def toNumber : Value → Decimal
  | .number value => value
  | .boolean value => if value then .one else .zero
  | .text value => (Decimal.ofNumericText? value.toList).getD .zero
  | .empty => .zero

/-- The value as a truth value: numbers by whether they differ from zero; text and no value are
false. -/
def toBoolean : Value → Except Decimal.Signal Bool
  | .number value => return !(← value.equal .zero)
  | .boolean value => .ok value
  | .text _ => .ok false
  | .empty => .ok false

/-- The value as a reader sees it. Numbers are rounded and written without an exponent. -/
def display : Value → Except Decimal.Signal String
  | .number value => return (← value.normalize).toPlain
  | .boolean value => .ok (if value then "TRUE" else "FALSE")
  | .text value => .ok value
  | .empty => .ok ""

def kindName : Value → String
  | .number _ => "Number"
  | .boolean _ => "Boolean"
  | .text _ => "Text"
  | .empty => "Empty"

end Value
end FormulaGrid
