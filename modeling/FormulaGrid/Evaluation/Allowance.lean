import FormulaGrid.Fault

/-! How deeply an evaluation may still nest. Brackets, calls, negations and references each take
their share; an evaluation that needs more has no value. The shares and the standard allowance stand
for a stack of a fixed size, of which what calls an evaluation takes nothing; results that do not say
otherwise hold for every allowance. -/
namespace FormulaGrid

/-- What is left for nesting; `none` sets no limit. -/
abbrev Allowance := Option Nat

namespace Allowance

def bracket : Nat := 4

def call : Nat := 4

def negation : Nat := 1

def reference : Nat := 6

/-- Enough for 240 brackets or calls, for a chain of 160 references, or for 960 negations. -/
def standard : Allowance := some 960

def spend (share : Nat) : Allowance → Except Fault Allowance
  | none => .ok none
  | some left => if share ≤ left then .ok (some (left - share)) else .error .nestedTooDeeply

end Allowance
end FormulaGrid
