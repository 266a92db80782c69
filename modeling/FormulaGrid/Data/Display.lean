import FormulaGrid.Data.Basic
import FormulaGrid.Text.Numeral
import FormulaGrid.Text.Quoted

/-! Data as a reader sees it. Text shows as it is, and quoted inside lists and mappings and where a
message points at a value. An integer of too many digits cannot be written at all. -/
namespace FormulaGrid.Data

open FormulaGrid.Text

mutual
def quote : Data → String
  | .null => "None"
  | .boolean true => "True"
  | .boolean false => "False"
  | .integer value => toString value
  | .float numeral => numeral
  | .text value => quoted value
  | .list items => "[" ++ String.intercalate ", " (quoteItems items) ++ "]"
  | .mapping entries => "\x7b" ++ String.intercalate ", " (quoteEntries entries) ++ "\x7d"

def quoteItems : List Data → List String
  | [] => []
  | item :: items => quote item :: quoteItems items

def quoteEntries : List (String × Data) → List String
  | [] => []
  | (key, value) :: entries => (quoted key ++ ": " ++ quote value) :: quoteEntries entries
end

mutual
/-- Whether no integer has too many digits to be written. -/
def isWritable : Data → Bool
  | .integer value => decide (value.natAbs < Nat.pow 10 maxNumeralDigits)
  | .list items => areWritableItems items
  | .mapping entries => areWritableEntries entries
  | _ => true

def areWritableItems : List Data → Bool
  | [] => true
  | item :: items => isWritable item && areWritableItems items

def areWritableEntries : List (String × Data) → Bool
  | [] => true
  | (_, value) :: entries => isWritable value && areWritableEntries entries
end

def display : Data → String
  | .text value => value
  | value => value.quote

def kindName : Data → String
  | .null => "NoneType"
  | .boolean _ => "bool"
  | .integer _ => "int"
  | .float _ => "float"
  | .text _ => "str"
  | .list _ => "list"
  | .mapping _ => "dict"

end FormulaGrid.Data
