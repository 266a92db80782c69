import FormulaGrid.Proofs.Exactness
import Mathlib.Tactic.NormNum.Parity

/-! The precision of a calculation. Every arithmetic step computes the exact result of its operands,
however many digits they have, and rounds it once. -/
namespace FormulaGrid

open FormulaGrid.Decimal FormulaGrid.Evaluation FormulaGrid.Grammar FormulaGrid.Formula

namespace Operator

variable {operator : Operator} {left right : Value} {p q : ℚ}

theorem apply_rounded (position : Nat) (arithmetic : operator.isComparison = false)
    (first : left.toNumber.rational? = some p) (second : right.toNumber.rational? = some q)
    (defined : operator = .divide → q ≠ 0) (normal : Normal (operator.exact p q)) :
    ∃ result, operator.apply position left right = (result.mapError .numeric).map .number ∧
      Rounded result (operator.exact p q) := by
  cases operator with
  | add => exact ⟨_, rfl, add_rounded first second normal⟩
  | subtract => exact ⟨_, rfl, sub_rounded first second normal⟩
  | multiply => exact ⟨_, rfl, mul_rounded first second normal⟩
  | divide =>
    have divisor : right.toNumber.equal .zero = .ok false := by
      rw [equal_eq second rational?_zero, decide_eq_false (defined rfl)]
    refine ⟨left.toNumber.div right.toNumber, ?_, div_rounded first second (defined rfl) normal⟩
    simp only [apply, quotient, divisor]
    rfl
  | equal | less | greater => cases arithmetic

end Operator

namespace Decimal

variable {q r : ℚ}

theorem Nearest.normal (nearest : Nearest q r) (large : 10 ^ (maxExponent + 1) ≤ |r|) :
    Normal q := by
  by_contra small
  obtain ⟨nonzero, below⟩ := not_or.1 small
  have close := nearest.closest 0 short_zero
  rw [sub_zero] at close
  have double : |r| ≤ 2 * |q| := by
    have triangle := abs_sub_abs_le_abs_sub r q
    rw [abs_sub_comm] at triangle
    linarith
  have least : (10 : ℚ) ^ (minExponent + 1) ≤ 10 ^ (maxExponent + 1) :=
    ten_pow_le_iff.2 (by decide)
  have tenfold : (10 : ℚ) ^ (minExponent + 1) = 10 ^ minExponent * 10 :=
    zpow_add_one₀ ten_ne_zero minExponent
  have unit := ten_pow_pos minExponent
  generalize (10 : ℚ) ^ minExponent = u at *
  generalize (10 : ℚ) ^ (maxExponent + 1) = v at *
  linarith [not_le.1 below]

end Decimal

/-- The result of an arithmetic step is the number of at most 28 digits nearest to the exact one,
the even one of two, and overflow if that is too great. -/
theorem arithmetic_step_nearest (operator : Operator) (position : Nat) (left right : Value)
    (p q : ℚ) (arithmetic : operator.isComparison = false)
    (first : left.toNumber.rational? = some p) (second : right.toNumber.rational? = some q)
    (defined : operator = .divide → q ≠ 0) :
    ∃ r, (∀ s, Nearest (operator.exact p q) s ↔ s = r) ∧
      (Short (operator.exact p q) → r = operator.exact p q) ∧
      (operator.exact p q = 0 ∨ (10 : ℚ) ^ (-999999 : ℤ) ≤ |operator.exact p q| →
        |r| < (10 : ℚ) ^ (1000000 : ℤ) →
          ∃ negative c e, operator.apply position left right =
              .ok (.number (.finite negative c e)) ∧
            c < 10 ^ 28 ∧ (signed negative c : ℚ) * 10 ^ e = r) ∧
      ((10 : ℚ) ^ (1000000 : ℤ) ≤ |r| →
        ∃ fault, operator.apply position left right = .error fault ∧
          fault.code = "numeric_overflow") ∧
      ∀ (accessor : Option Accessor) (chain : Chain) (allowance : Allowance) (text : String)
        (f g : Formula), ofText? text = .ok (some (.binary operator position f g)) →
        f.value (referenceValue accessor chain none) = .ok left →
        g.value (referenceValue accessor chain none) = .ok right →
        evaluateWithin accessor chain allowance text ≠ .error .nestedTooDeeply →
        evaluateWithin accessor chain allowance text = operator.apply position left right := by
  obtain ⟨r, only⟩ := exists_nearest (operator.exact p q)
  have nearest : Nearest (operator.exact p q) r := (only r).2 rfl
  have delivers (normal : Normal (operator.exact p q)) :
      ∃ result, operator.apply position left right = (result.mapError .numeric).map .number ∧
        Delivers result r := by
    obtain ⟨result, applied, s, near, delivered⟩ :=
      Operator.apply_rounded position arithmetic first second defined normal
    obtain rfl := (only s).1 near
    exact ⟨result, applied, delivered⟩
  refine ⟨r, only, nearest.eq_of_short, fun normal bounded => ?_, fun large => ?_,
    fun accessor chain allowance text f g parsed valued_f valued_g shallow => ?_⟩
  · obtain ⟨result, applied, delivered⟩ := delivers normal
    obtain ⟨negative, c, e, rfl, short, value⟩ := delivered.fits bounded
    exact ⟨negative, c, e, applied, short, value⟩
  · obtain ⟨result, applied, delivered⟩ := delivers (nearest.normal large)
    rw [delivered.overflows large] at applied
    exact ⟨_, applied, rfl⟩
  · obtain ⟨parses, _⟩ := parses_of_ofText parsed
    rw [evaluateWithin_unlimited shallow, evaluateWithin_parsed accessor chain parses,
      Formula.value, valued_f, Failure.ok_bind, valued_g, Failure.ok_bind]

theorem arithmetic_step_nearest_carry :
    ∃ negative c e, evaluateWithin none (Chain.start none 64 (by decide)) none
        "99999999999999999999999999995/10" = .ok (.number (.finite negative c e)) ∧
      c < 10 ^ 28 ∧ (signed negative c : ℚ) * 10 ^ e = 10 ^ 28 := by
  have parsed : ofText? "99999999999999999999999999995/10" = .ok (some
      (.binary .divide 29 (.number "99999999999999999999999999995" 0) (.number "10" 30))) := by cbv
  have dividend : (numeralValue "99999999999999999999999999995").toNumber.rational? =
      some (10 ^ 29 - 5) := by
    rw [show numeralValue "99999999999999999999999999995" =
      .number (.ofNat 99999999999999999999999999995) from rfl]
    norm_num [Value.toNumber, ofNat, rational?, signed]
  have divisor : (numeralValue "10").toNumber.rational? = some 10 := by
    rw [show numeralValue "10" = .number (.ofNat 10) from rfl]
    norm_num [Value.toNumber, ofNat, rational?, signed]
  obtain ⟨r, only, -, fits, -, evaluates⟩ :=
    arithmetic_step_nearest .divide 29 _ _ _ _ rfl dividend divisor fun _ => by norm_num
  have exact : Operator.divide.exact (10 ^ 29 - 5) 10 = 10 ^ 28 - 1 / 2 := by
    norm_num [Operator.exact]
  rw [exact] at only fits
  have tie : RoundsAt 27 (10 ^ 28 - 1 / 2) (10 ^ 28) := by
    constructor <;> norm_num [halfUnit, Nat.even_pow]
  obtain rfl : 10 ^ 28 = r := by
    have carried := (only _).1 tie.nearest
    norm_num at carried ⊢
    exact carried
  obtain ⟨negative, c, e, applied, short, value⟩ := fits
    (.inr (le_trans (ten_pow_le_iff.2 (show (-999999 : ℤ) ≤ 0 by decide)) (by norm_num [abs_le])))
    (lt_of_le_of_lt (show |(10 : ℚ) ^ 28| ≤ 10 ^ (28 : ℤ) by norm_num)
      (ten_pow_lt_iff.2 (by decide)))
  refine ⟨negative, c, e, ?_, short, value⟩
  have same : evaluateWithin none (Chain.start none 64 (by decide)) none
      "99999999999999999999999999995/10" = .ok (.number (.finite negative c e)) := by
    rw [evaluateWithin_parsed none _ (parses_of_ofText parsed).1, ← applied]
    rfl
  rw [← applied]
  exact evaluates none _ none _ _ _ parsed rfl rfl (by rw [same]; simp)

end FormulaGrid
