import FormulaGrid.Text.Letter

/-! Column names. The columns are A to Z, then AA, AB and so on: numerals in base 26 whose digits
are worth 1 to 26. -/
namespace FormulaGrid.Position

open FormulaGrid.Text

def letter (digit : Nat) : Char :=
  Char.ofNat ('A'.toNat + digit)

def worth (c : Char) : Nat :=
  c.toNat + 1 - 'A'.toNat

def letters (n : Nat) : List Char :=
  if n = 0 then [] else letters ((n - 1) / 26) ++ [letter ((n - 1) % 26)]
termination_by n
decreasing_by omega

def numberOfLetters (cs : List Char) : Nat :=
  cs.foldl (fun n c => 26 * n + worth c) 0

def columnName (index : Nat) : String :=
  String.ofList (letters (index + 1))

def columnIndex (cs : List Char) : Nat :=
  numberOfLetters cs - 1

end FormulaGrid.Position
