import FormulaGrid.Operator

/-! Formulas as trees. Brackets and commas leave no trace in a tree; every other token has its place
there, with its offset in the text. -/
namespace FormulaGrid

inductive Formula where
  | number (numeral : String) (position : Nat)
  | reference (name : String) (position : Nat)
  | call (name : String) (position : Nat) (arguments : List Formula)
  | negation (position : Nat) (operand : Formula)
  | binary (operator : Operator) (position : Nat) (left right : Formula)
  deriving Repr

namespace Formula

mutual
def references : Formula → List String
  | .number _ _ => []
  | .reference name _ => [name]
  | .call _ _ arguments => referencesAmong arguments
  | .negation _ operand => references operand
  | .binary _ _ left right => references left ++ references right

def referencesAmong : List Formula → List String
  | [] => []
  | formula :: formulas => references formula ++ referencesAmong formulas
end

def parts : Formula → List Formula
  | .number _ _ => []
  | .reference _ _ => []
  | .call _ _ arguments => arguments
  | .negation _ operand => [operand]
  | .binary _ _ left right => [left, right]

theorem sizeOf_parts_le (formula : Formula) : sizeOf formula.parts ≤ sizeOf formula + 1 := by
  cases formula with
  | number | reference => simp [parts]
  | call name position arguments => simp only [parts, call.sizeOf_spec]; omega
  | negation position operand => simp [parts]
  | binary operator position left right => cases operator <;> (simp [parts]; omega)

theorem sizeOf_append_lt (formula : Formula) (stack : List Formula) :
    sizeOf (formula.parts ++ stack) < sizeOf (formula :: stack) := by
  have together (formulas : List Formula) :
      sizeOf (formulas ++ stack) + 1 = sizeOf formulas + sizeOf stack := by
    induction formulas with
    | nil => simp [Nat.add_comm]
    | cons formula formulas ih => simp only [List.cons_append, List.cons.sizeOf_spec]; omega
  have := together formula.parts
  have := sizeOf_parts_le formula
  simp only [List.cons.sizeOf_spec]
  omega

/-- The formulas on a stack and all that they are made of, each before its parts. -/
def subformulas : List Formula → List Formula
  | [] => []
  | formula :: stack => formula :: subformulas (formula.parts ++ stack)
termination_by stack => sizeOf stack
decreasing_by exact sizeOf_append_lt formula stack

end Formula
end FormulaGrid
