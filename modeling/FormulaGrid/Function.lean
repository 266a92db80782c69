import FormulaGrid.Value

/-! The functions that formulas can call. All of them compare their arguments as numbers and return
the first of the greatest or least ones as it is. -/
namespace FormulaGrid

inductive Arity where
  | exactly (count : Nat)
  | atLeast (count : Nat)
  deriving DecidableEq, Repr

def Arity.accepts : Arity → Nat → Bool
  | .exactly expected, count => count == expected
  | .atLeast least, count => least ≤ count

inductive Function where
  | max
  | min
  | mmax
  | mmin
  deriving DecidableEq, Repr

namespace Function

def ofName? : String → Option Function
  | "max" => some .max
  | "min" => some .min
  | "mmax" => some .mmax
  | "mmin" => some .mmin
  | _ => none

def name : Function → String
  | .max => "max"
  | .min => "min"
  | .mmax => "mmax"
  | .mmin => "mmin"

def arity : Function → Arity
  | .max => .exactly 2
  | .min => .exactly 2
  | .mmax => .atLeast 1
  | .mmin => .atLeast 1

/-- The first number that no other one precedes, where `precedes` tells whether a number replaces
the best one so far. -/
def select (precedes : Decimal → Decimal → Except Decimal.Signal Bool) (best : Decimal) :
    List Decimal → Except Decimal.Signal Decimal
  | [] => .ok best
  | number :: numbers => do
    if ← precedes number best then select precedes number numbers
    else select precedes best numbers

def greatest : Decimal → List Decimal → Except Decimal.Signal Decimal :=
  select Decimal.greater

def least : Decimal → List Decimal → Except Decimal.Signal Decimal :=
  select Decimal.less

def apply (function : Function) (first : Value) (others : List Value) :
    Except Decimal.Signal Value :=
  let extreme := match function with
    | .max | .mmax => greatest
    | .min | .mmin => least
  (extreme first.toNumber (others.map Value.toNumber)).map .number

theorem ofName?_name (function : Function) : ofName? function.name = some function := by
  cases function <;> rfl

end Function
end FormulaGrid
