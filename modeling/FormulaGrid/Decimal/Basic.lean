/-! Decimal numbers with a coefficient and an exponent of their own, so that `20`, `20.00` and
`2E+1` are three numbers of one value. Beside the finite ones there are signed infinities and
results that are not a number. -/
namespace FormulaGrid

/-- A decimal number. The finite one `⟨negative, coefficient, exponent⟩` has the magnitude
`coefficient * 10 ^ exponent`; a signaling NaN may not be computed with. -/
inductive Decimal where
  | finite (negative : Bool) (coefficient : Nat) (exponent : Int)
  | infinite (negative : Bool)
  | nan (negative : Bool) (signaling : Bool) (payload : Nat)
  deriving DecidableEq, Repr

namespace Decimal

inductive Signal where
  | invalidOperation
  | divisionByZero
  | overflow
  deriving DecidableEq, Repr

def Signal.name : Signal → String
  | .invalidOperation => "InvalidOperation"
  | .divisionByZero => "DivisionByZero"
  | .overflow => "Overflow"

def ofNat (n : Nat) : Decimal :=
  .finite false n 0

def zero : Decimal := ofNat 0
def one : Decimal := ofNat 1

def ofInt (n : Int) : Decimal :=
  .finite (n < 0) n.natAbs 0

def negate : Decimal → Decimal
  | .finite negative coefficient exponent => .finite (!negative) coefficient exponent
  | .infinite negative => .infinite (!negative)
  | .nan negative signaling payload => .nan (!negative) signaling payload

def signed (negative : Bool) (coefficient : Nat) : Int :=
  if negative then -(coefficient : Int) else coefficient

/-- How many digits written from the first decimal place on are surely not too many for `n`: the
logarithm of two to the base ten lies just above 643/2136. -/
def digitCountBelow (n : Nat) : Nat :=
  n.log2 * 643 / 2136

def digitCountFrom (n count : Nat) : Nat :=
  if n < Nat.pow 10 count then count else digitCountFrom n (count + 1)
termination_by n - count
decreasing_by
  have below : count < Nat.pow 10 count := Nat.lt_pow_self (by decide)
  omega

def digitCount (n : Nat) : Nat :=
  if n = 0 then 1 else digitCountFrom n (digitCountBelow n)

/-- The exponent of the first digit. -/
def adjusted (coefficient : Nat) (exponent : Int) : Int :=
  exponent + digitCount coefficient - 1

theorem digitCountFrom_spec (n count : Nat) :
    n < Nat.pow 10 (digitCountFrom n count) ∧ count ≤ digitCountFrom n count ∧
      ∀ k, count ≤ k → n < Nat.pow 10 k → digitCountFrom n count ≤ k := by
  fun_induction digitCountFrom n count with
  | case1 count below => exact ⟨below, Nat.le_refl _, fun _ le _ => le⟩
  | case2 count above ih =>
    refine ⟨ih.1, by omega, fun k le below => ih.2.2 k ?_ below⟩
    rcases Nat.lt_or_eq_of_le le with lt | rfl
    · omega
    · exact absurd below above

theorem lt_pow_digitCount (n : Nat) : n < Nat.pow 10 (digitCount n) := by
  unfold digitCount
  split
  case isTrue zero => rw [zero]; decide
  case isFalse => exact (digitCountFrom_spec n _).1

end Decimal
end FormulaGrid
