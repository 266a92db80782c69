import FormulaGrid.Position.Column
import FormulaGrid.Text.Digit
import FormulaGrid.Text.Numeral
import FormulaGrid.Text.Quoted

/-! Where a cell stands, and its reference: the column's name and then the row, counted from one. A
reference may spell its row in the digits of any script, with zeros in front, and end in a line
break. -/
namespace FormulaGrid

open FormulaGrid.Text

structure Position where
  row : Nat
  column : Nat
  deriving DecidableEq, Repr

inductive PositionError where
  | negativeRow (row : Int)
  | negativeColumn (column : Int)
  | invalidColumn (name : String)
  | invalidReference (reference : String)
  | rowTooLong (digits : Nat)
  | rowTooGreat
  deriving DecidableEq, Repr

def PositionError.message : PositionError → String
  | .negativeRow row => s!"Row index must be non-negative, got {row}"
  | .negativeColumn column => s!"Column index must be non-negative, got {column}"
  | .invalidColumn name => "Invalid column name: " ++ quoted name
  | .invalidReference reference => "Invalid cell reference: " ++ quoted reference
  | .rowTooLong digits => tooLongMessage digits
  | .rowTooGreat => tooGreatMessage

namespace Position

def reference (position : Position) : String :=
  columnName position.column ++ toString (position.row + 1)

def dropFinalBreak (cs : List Char) : List Char :=
  if cs.getLast? = some '\n' then cs.dropLast else cs

/-- The digits of a text that holds nothing but digits of any script, of which at least one. -/
def digits? (cs : List Char) : Option (List Nat) :=
  if cs.isEmpty then none else cs.mapM decimalDigit?

def ofReference (reference : String) : Except PositionError Position :=
  let column := reference.toList.takeWhile isAsciiUpper
  let row := dropFinalBreak (reference.toList.dropWhile isAsciiUpper)
  match column.isEmpty, digits? row with
  | false, some digits =>
    if maxNumeralDigits < digits.length then .error (.rowTooLong digits.length)
    else if valueOfDigits digits = 0 then .error (.invalidReference reference)
    else .ok ⟨valueOfDigits digits - 1, columnIndex column⟩
  | _, _ => .error (.invalidReference reference)

def ofReference? (reference : String) : Option Position :=
  (ofReference reference).toOption

def columnNameOf (index : Int) : Except PositionError String :=
  if index < 0 then .error (.negativeColumn index) else .ok (columnName index.toNat)

/-- The index of the column that a word of capital letters names. Letters beyond Z are worth as much
as they stand behind A among all characters. -/
def columnIndexOf (name : String) : Except PositionError Nat :=
  if isCapitalWord name.toList then .ok (columnIndex name.toList) else .error (.invalidColumn name)

/-- The reference of the cell in a row and a column, if neither is negative and the row is not too
great to be written. -/
def referenceOf (row column : Int) : Except PositionError String := do
  if row < 0 then throw (.negativeRow row)
  let name ← columnNameOf column
  let number := row.toNat + 1
  if Nat.pow 10 maxNumeralDigits ≤ number then throw .rowTooGreat
  return name ++ toString number

end Position
end FormulaGrid
