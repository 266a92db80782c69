import FormulaGrid.Data.Display
import FormulaGrid.Decimal.Double
import FormulaGrid.Text.Numeral

/-! Whole numbers in documents. A truth value counts as one or zero, a fraction is cut off, and text
must be an integer numeral. -/
namespace FormulaGrid.Data

open FormulaGrid.Text

inductive WholeError where
  | wrongKind
  | malformed (written : String)
  | tooLong (digits : Nat)
  | notANumber
  | infinite
  deriving DecidableEq, Repr

def WholeError.message : WholeError → String
  | .wrongKind => ""
  | .malformed written =>
    "invalid literal for int() with base 10: " ++ String.ofList ((quoted written).toList.take 200)
  | .tooLong digits => tooLongMessage digits
  | .notANumber => "cannot convert float NaN to integer"
  | .infinite => "cannot convert float infinity to integer"

def wholePart : Decimal → Except WholeError Int
  | .finite negative coefficient exponent =>
    match Double.ofDecimal? coefficient exponent with
    | some x => .ok (Decimal.signed negative x.whole)
    | none => .error .infinite
  | .infinite _ => .error .infinite
  | .nan _ _ _ => .error .notANumber

def toWhole : Data → Except WholeError Int
  | .boolean value => .ok (if value then 1 else 0)
  | .integer value => .ok value
  | .float numeral =>
    match Decimal.ofNumeral? numeral.toList with
    | some number => wholePart number
    | none => .error .notANumber
  | .text written =>
    match readInteger written.toList with
    | .ok value => .ok value
    | .error .malformed => .error (.malformed written)
    | .error (.tooLong digits) => .error (.tooLong digits)
  | _ => .error .wrongKind

end FormulaGrid.Data
