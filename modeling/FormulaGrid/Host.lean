import FormulaGrid.Accessor
import FormulaGrid.Data.Display

/-! What a host may put into a cell: plain data, a decimal number, a value of a formula, or all that
shows of a cell. Plain leaves have values; lists and mappings do not. -/
namespace FormulaGrid

open FormulaGrid.Text

inductive Content where
  | data (content : Data)
  | decimal (number : Decimal)
  | value (value : Value)
  | snapshot (cell : Snapshot)
  deriving Inhabited

structure Inconvertible where
  kind : String
  deriving DecidableEq, Repr

def Inconvertible.message (error : Inconvertible) : String :=
  s!"Cannot convert {error.kind} to a formula value"

def Data.toValue : Data → Except Inconvertible Value
  | .null => .ok .empty
  | .boolean value => .ok (.boolean value)
  | .integer value => .ok (.number (.ofInt value))
  | .float numeral => .ok (.number ((Decimal.ofNumeral? numeral.toList).getD .zero))
  | .text value => .ok (.text value)
  | .list items => .error ⟨(Data.list items).kindName⟩
  | .mapping entries => .error ⟨(Data.mapping entries).kindName⟩

def Value.quote : Value → String
  | .number x => s!"Number(value=Decimal('{x.toText}'))"
  | .boolean truth => s!"Boolean(value={(Data.boolean truth).quote})"
  | .text written => s!"Text(value={quoted written})"
  | .empty => "Empty()"

namespace Content

def toValue : Content → Except Inconvertible Value
  | .data content => content.toValue
  | .decimal x => .ok (.number x)
  | .value v => .ok v
  | .snapshot _ => .error ⟨"CellSnapshot"⟩

def quote : Content → String
  | .data content => content.quote
  | .decimal x => s!"Decimal('{x.toText}')"
  | .value v => v.quote
  | .snapshot cell =>
    s!"CellSnapshot(reference={quoted cell.reference}, " ++
      s!"raw_expression={quoted cell.rawExpression}, cached_value={cell.cachedValue.quote})"

def noValueMessage (content : Content) : String :=
  "Not a formula value: " ++ content.quote

/-- The cell with some content: text that starts a formula is its expression, and all else is its
value. -/
def toSnapshot (reference : String) : Content → Except Inconvertible Snapshot
  | .snapshot cell => .ok cell
  | .data (.text text) =>
    .ok ⟨reference, text, if startsFormula text then .empty else .text text⟩
  | content => return ⟨reference, "", ← content.toValue⟩

end Content

abbrev Cells := List (String × Snapshot)

def Cells.ofContents (contents : List (String × Content)) : Except Inconvertible Cells :=
  contents.mapM fun (reference, content) => return (reference, ← content.toSnapshot reference)

def Cells.accessor (cells : Cells) : Accessor := fun reference =>
  (cells.find? (·.1 == reference)).map (·.2)

end FormulaGrid
