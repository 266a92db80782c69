import FormulaGrid.Accessor
import FormulaGrid.Fault
import FormulaGrid.Position.Basic

/-! One cell of a sheet: its text, and the value and the error it last had. Text that is no formula
is its own value. -/
namespace FormulaGrid

open FormulaGrid.Text

structure Cell where
  row : Nat
  column : Nat
  expression : String
  value : Value
  error : Option String
  deriving DecidableEq, Repr

/-- Whether text is a formula for its own cell: an equals sign with something after it, whitespace
at both ends aside. -/
def isFormulaText (text : String) : Bool :=
  match trim text.toList with
  | '=' :: _ :: _ => true
  | _ => false

def literalValue (text : String) : Value :=
  if (trim text.toList).isEmpty then .empty else .text text

namespace Cell

def blank (row column : Nat) : Cell :=
  ⟨row, column, "", .empty, none⟩

def position (cell : Cell) : Position :=
  ⟨cell.row, cell.column⟩

def reference (cell : Cell) : String :=
  cell.position.reference

def isFormula (cell : Cell) : Bool :=
  isFormulaText cell.expression

def snapshot (cell : Cell) : Snapshot :=
  ⟨cell.reference, cell.expression, cell.value⟩

def cleared (cell : Cell) : Cell :=
  blank cell.row cell.column

/-- The cell with another text, and what it had computed. -/
def withText (cell : Cell) (text : String) : Cell :=
  { cell with expression := text }

def literal (cell : Cell) : Cell :=
  { cell with value := literalValue cell.expression, error := none }

def computed (cell : Cell) : Except Fault Value → Cell
  | .ok value => { cell with value := value, error := none }
  | .error fault => { cell with value := .empty, error := some fault.message }

end Cell
end FormulaGrid
