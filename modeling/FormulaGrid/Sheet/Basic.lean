import FormulaGrid.Chain
import FormulaGrid.Data.Whole
import FormulaGrid.Sheet.Cell

/-! A sheet is a rectangle of cells, row by row. Formulas read its cells by their references. -/
namespace FormulaGrid

open FormulaGrid.Text

structure Sheet where
  name : String
  maxDepth : Int
  rows : Nat
  columns : Nat
  grid : List (List Cell)
  deriving DecidableEq, Repr

inductive SheetError where
  | noCell (reference : String)
  | tooSmall (rows columns : Int)
  | invalidDepth (maxDepth : Int)
  | lastRow
  | lastColumn
  | noRow (index : Int)
  | noColumn (index : Int)
  | contentNoMapping
  | cellsNoMapping
  | unreadable (path : String)
  | fileNoMapping (path : String)
  | outsideSheet (reference : String) (rows columns : Nat)
  | invalidNumber (error : Data.WholeError)
  | numeralTooLong
  deriving DecidableEq, Repr

def SheetError.message : SheetError → String
  | .noCell reference => reference
  | .tooSmall rows columns =>
    if (Data.list [.integer rows, .integer columns]).isWritable then
      s!"Sheet needs at least one row and column, got {rows}x{columns}"
    else tooGreatMessage
  | .invalidDepth maxDepth => Chain.depthMessage maxDepth
  | .lastRow => "Cannot remove the last row"
  | .lastColumn => "Cannot remove the last column"
  | .noRow index => s!"Row {index} out of range"
  | .noColumn index => s!"Column {index} out of range"
  | .contentNoMapping => ""
  | .cellsNoMapping => "'cells' must be a mapping of reference to expression"
  | .unreadable path => path ++ " is no document"
  | .fileNoMapping path => path ++ " must contain a mapping"
  | .outsideSheet reference rows columns =>
    "Cell " ++ quoted reference ++ s!" is not inside a {rows}x{columns} sheet"
  | .invalidNumber error => error.message
  | .numeralTooLong => tooGreatMessage

namespace Sheet

def defaultSize : Nat := 10

def defaultName : String := "New sheet"

def blankRow (row columns : Nat) : List Cell :=
  (List.range columns).map (Cell.blank row)

def blank (name : String) (maxDepth : Int) (rows columns : Nat) : Sheet :=
  ⟨name, maxDepth, rows, columns, (List.range rows).map (blankRow · columns)⟩

def make (name : String) (maxDepth rows columns : Int) : Except SheetError Sheet :=
  if rows < 1 ∨ columns < 1 then .error (.tooSmall rows columns)
  else .ok (blank name maxDepth rows.toNat columns.toNat)

def cellAt? (sheet : Sheet) (position : Position) : Option Cell :=
  sheet.grid[position.row]? >>= (·[position.column]?)

def cell? (sheet : Sheet) (reference : String) : Option Cell :=
  Position.ofReference? reference >>= sheet.cellAt?

def cell (sheet : Sheet) (reference : String) : Except SheetError Cell :=
  match sheet.cell? reference with
  | some cell => .ok cell
  | none => .error (.noCell reference)

def accessor (sheet : Sheet) : Accessor := fun reference =>
  (sheet.cell? reference).map Cell.snapshot

def cells (sheet : Sheet) : List Cell :=
  sheet.grid.flatten

def errors (sheet : Sheet) : List (String × String) :=
  sheet.cells.filterMap fun cell => cell.error.map (cell.reference, ·)

def modifyAt (sheet : Sheet) (position : Position) (change : Cell → Cell) : Sheet :=
  { sheet with grid := sheet.grid.modify position.row (·.modify position.column change) }

def clear (sheet : Sheet) : Sheet :=
  { sheet with grid := sheet.grid.map (·.map Cell.cleared) }

def addRow (sheet : Sheet) : Sheet :=
  { sheet with
    rows := sheet.rows + 1
    grid := sheet.grid ++ [blankRow sheet.rows sheet.columns] }

def addColumn (sheet : Sheet) : Sheet :=
  { sheet with
    columns := sheet.columns + 1
    grid := sheet.grid.mapIdx fun row cells => cells ++ [Cell.blank row sheet.columns] }

/-- The sheet without a row. Later rows move up with their cells. -/
def dropRow (sheet : Sheet) (index : Nat) : Sheet :=
  { sheet with
    rows := sheet.rows - 1
    grid := sheet.grid.take index ++ (sheet.grid.drop (index + 1)).map
      (·.map fun cell => { cell with row := cell.row - 1 }) }

/-- The sheet without a column. Later columns move left with their cells. -/
def dropColumn (sheet : Sheet) (index : Nat) : Sheet :=
  { sheet with
    columns := sheet.columns - 1
    grid := sheet.grid.map fun cells => cells.take index ++ (cells.drop (index + 1)).map
      fun cell => { cell with column := cell.column - 1 } }

end Sheet
end FormulaGrid
