import FormulaGrid.Decimal.Basic

/-! Rounding to the working precision. A result keeps its own exponent where its digits fit, and
otherwise loses as many digits as it must; a half goes to the even neighbour. Below the least
normal exponent the exponent of the last digit is bounded instead of the number of digits. -/
namespace FormulaGrid.Decimal

def precision : Nat := 28

def maxExponent : Int := 999999

/-- The least exponent of the first digit of a result that has all its digits. -/
def minExponent : Int := -999999

def leastExponent : Int := minExponent - precision + 1

/-- The integer nearest to `n / d`, the even one of two. -/
def roundHalfEven (n d : Nat) : Nat :=
  let quotient := n / d
  let remainder := n % d
  if 2 * remainder < d ∨ (2 * remainder = d ∧ quotient % 2 = 0) then quotient else quotient + 1

/-- The exponent that a result takes: its own, unless that leaves more than the allowed digits or
lies below the least one. -/
def roundedExponent (coefficient : Nat) (exponent : Int) : Int :=
  max exponent (max (adjusted coefficient exponent - precision + 1) leastExponent)

/-- The integer nearest to `coefficient / 10 ^ count`, the even one of two. A coefficient with fewer
than `count` digits is below a tenth of that power, so the power need not be computed. -/
def dropDigits (coefficient count : Nat) : Nat :=
  if digitCount coefficient < count then 0 else roundHalfEven coefficient (Nat.pow 10 count)

theorem dropDigits_eq (coefficient count : Nat) :
    dropDigits coefficient count = roundHalfEven coefficient (Nat.pow 10 count) := by
  unfold dropDigits
  split
  case isFalse => rfl
  case isTrue short =>
    have tenth : coefficient < Nat.pow 10 (count - 1) :=
      Nat.lt_of_lt_of_le (lt_pow_digitCount coefficient)
        (Nat.pow_le_pow_right (by decide) (by omega))
    have scaled : Nat.pow 10 count = Nat.pow 10 (count - 1) * 10 := by
      obtain ⟨k, rfl⟩ : ∃ k, count = k + 1 := ⟨count - 1, by omega⟩
      rfl
    have small : coefficient < Nat.pow 10 count := by omega
    have half : 2 * coefficient < Nat.pow 10 count := by omega
    rw [roundHalfEven, Nat.div_eq_of_lt small, Nat.mod_eq_of_lt small, if_pos (.inl half)]

/-- Rounds a positive coefficient. A coefficient that rounding carries to one digit more than
allowed gives its last zero to the exponent. -/
def roundCoefficient (coefficient : Nat) (exponent : Int) : Nat × Int :=
  let target := roundedExponent coefficient exponent
  if target = exponent then (coefficient, exponent)
  else
    let rounded := dropDigits coefficient (target - exponent).toNat
    if rounded = Nat.pow 10 precision then (Nat.pow 10 (precision - 1), target + 1)
    else (rounded, target)

/-- The result with the given exact value, rounded. A zero only has its exponent brought into
range, and a magnitude that is still too great overflows. -/
def round (negative : Bool) (coefficient : Nat) (exponent : Int) : Except Signal Decimal :=
  if coefficient = 0 then
    .ok (.finite negative 0 (max leastExponent (min maxExponent exponent)))
  else
    let (coefficient, exponent) := roundCoefficient coefficient exponent
    if coefficient ≠ 0 ∧ maxExponent < adjusted coefficient exponent then .error .overflow
    else .ok (.finite negative coefficient exponent)

def stripZeros : Nat → Nat → Int → Nat × Int
  | 0, coefficient, exponent => (coefficient, exponent)
  | count + 1, coefficient, exponent =>
    if coefficient % 10 = 0 then stripZeros count (coefficient / 10) (exponent + 1)
    else (coefficient, exponent)

/-- A NaN as a result: its payload keeps as many digits as the precision allows. -/
def quiet (negative : Bool) (payload : Nat) : Decimal :=
  .nan negative false (payload % Nat.pow 10 precision)

end FormulaGrid.Decimal
