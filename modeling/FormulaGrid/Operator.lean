import FormulaGrid.Fault

/-! The operators between two operands, in three ranks: comparisons bind weakest, then sums, then
products. All of them read their operands as numbers. -/
namespace FormulaGrid

inductive Operator where
  | add
  | subtract
  | multiply
  | divide
  | equal
  | less
  | greater
  deriving DecidableEq, Repr

namespace Operator

def isComparison : Operator → Bool
  | .equal | .less | .greater => true
  | .add | .subtract | .multiply | .divide => false

def kind : Operator → TokenKind
  | .add => .plus
  | .subtract => .minus
  | .multiply => .multiply
  | .divide => .divide
  | .equal => .equal
  | .less => .less
  | .greater => .greater

def sign : Operator → String
  | .add => "+"
  | .subtract => "-"
  | .multiply => "*"
  | .divide => "/"
  | .equal => "="
  | .less => "<"
  | .greater => ">"

def quotient (position : Nat) (dividend divisor : Decimal) : Except Fault Decimal := do
  if ← (divisor.equal .zero).mapError .numeric then
    throw (.formula (Cause.divisionByZero.at position))
  (dividend.div divisor).mapError .numeric

def apply (operator : Operator) (position : Nat) (left right : Value) : Outcome :=
  let a := left.toNumber
  let b := right.toNumber
  match operator with
  | .add => ((a.add b).mapError .numeric).map .number
  | .subtract => ((a.sub b).mapError .numeric).map .number
  | .multiply => ((a.mul b).mapError .numeric).map .number
  | .divide => (quotient position a b).map .number
  | .equal => ((a.equal b).mapError .numeric).map .boolean
  | .less => ((a.less b).mapError .numeric).map .boolean
  | .greater => ((a.greater b).mapError .numeric).map .boolean

end Operator

namespace TokenKind

def comparison? : TokenKind → Option Operator
  | .equal => some .equal
  | .less => some .less
  | .greater => some .greater
  | _ => none

def sum? : TokenKind → Option Operator
  | .plus => some .add
  | .minus => some .subtract
  | _ => none

def product? : TokenKind → Option Operator
  | .multiply => some .multiply
  | .divide => some .divide
  | _ => none

end TokenKind
end FormulaGrid
