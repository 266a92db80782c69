import FormulaGrid.Decimal.Rounding
import Mathlib.Algebra.Order.Field.Power
import Mathlib.Algebra.Order.Field.Rat
import Mathlib.Tactic.Linarith
import Mathlib.Tactic.Positivity
import Mathlib.Tactic.Ring

/-! The rational numbers that decimal numbers stand for. Those of them that are written with few
enough digits, within the range of the exponents, are results themselves. -/
namespace FormulaGrid.Decimal

def rational? : Decimal → Option ℚ
  | .finite negative coefficient exponent => some (signed negative coefficient * 10 ^ exponent)
  | _ => none

/-- The rational numbers that have a decimal number for a result to be. -/
def Representable (q : ℚ) : Prop :=
  q = 0 ∨ (∃ m k : ℤ, |m| < 10 ^ 28 ∧ q = m * 10 ^ k) ∧
    (10 : ℚ) ^ (-999999 : ℤ) ≤ |q| ∧ |q| ≤ (10 : ℚ) ^ (999999 : ℤ)

theorem signed_natAbs (n : ℤ) : signed (decide (n < 0)) n.natAbs = n := by
  unfold signed
  split
  next negative =>
    have := of_decide_eq_true negative
    omega
  next nonnegative =>
    have := of_decide_eq_false (Bool.eq_false_iff.2 nonnegative)
    omega

section Signs

variable {x y : Decimal} {q : ℚ}

theorem rational?_eq_some_iff :
    x.rational? = some q ↔
      ∃ (negative : Bool) (c : Nat) (e : ℤ), x = .finite negative c e ∧
        q = (signed negative c : ℚ) * 10 ^ e := by
  cases x <;> simp [rational?, eq_comm]

theorem signed_eq (negative : Bool) (c : Nat) :
    (signed negative c : ℚ) = (if negative then -1 else 1) * c := by
  cases negative <;> simp [signed]

theorem abs_signed (negative : Bool) (c : Nat) : |(signed negative c : ℚ)| = c := by
  cases negative <;> simp [signed]

theorem rational?_negate (valued : y.rational? = some q) : y.negate.rational? = some (-q) := by
  obtain ⟨negative, c, e, rfl, rfl⟩ := rational?_eq_some_iff.1 valued
  cases negative <;> simp [negate, rational?, signed]

end Signs

section Digits

theorem pow_le_pow_of_ratio {p q k l : Nat} (close : 10 ^ p ≤ 2 ^ q) (nonzero : q ≠ 0)
    (fewer : k * q ≤ l * p) : 10 ^ k ≤ 2 ^ l := by
  have raised : (10 ^ k) ^ q ≤ (2 ^ l) ^ q :=
    calc (10 ^ k) ^ q = 10 ^ (k * q) := (Nat.pow_mul ..).symm
      _ ≤ 10 ^ (l * p) := Nat.pow_le_pow_right (by decide) fewer
      _ = (10 ^ p) ^ l := by rw [Nat.mul_comm, Nat.pow_mul]
      _ ≤ (2 ^ q) ^ l := Nat.pow_le_pow_left close l
      _ = (2 ^ l) ^ q := by rw [← Nat.pow_mul, Nat.mul_comm, Nat.pow_mul]
  exact (Nat.pow_le_pow_iff_left nonzero).1 raised

theorem pow_643_le : 10 ^ 643 ≤ 2 ^ 2136 := by decide +kernel

theorem pow_digitCountBelow_le {n : Nat} (positive : 0 < n) : 10 ^ digitCountBelow n ≤ n := by
  have bits : 2 ^ n.log2 ≤ n := Nat.log2_self_le (Nat.ne_of_gt positive)
  exact Nat.le_trans (pow_le_pow_of_ratio pow_643_le (by decide) (Nat.div_mul_le_self _ _)) bits

theorem pow_digitCount_le {n : Nat} (positive : 0 < n) : 10 ^ (digitCount n - 1) ≤ n := by
  have below := pow_digitCountBelow_le positive
  rw [digitCount, if_neg (Nat.ne_of_gt positive)]
  obtain ⟨above, from_below, least⟩ := digitCountFrom_spec n (digitCountBelow n)
  by_contra short
  have shorter := least (digitCountFrom n (digitCountBelow n) - 1)
  rcases Nat.lt_or_eq_of_le from_below with later | same
  · have := shorter (by omega) (Nat.lt_of_not_le short)
    omega
  · have larger : n < 10 ^ digitCountBelow n := same ▸ above
    omega

theorem digitCount_pos {n : Nat} (positive : 0 < n) : 0 < digitCount n := by
  by_contra none
  have above := lt_pow_digitCount n
  have zero : digitCount n = 0 := by omega
  rw [zero] at above
  change n < 1 at above
  omega

theorem digitCount_le {n k : Nat} (positive : 0 < k) (short : n < 10 ^ k) : digitCount n ≤ k := by
  rcases Nat.eq_zero_or_pos n with rfl | some
  · exact positive
  · have fewer := (Nat.pow_lt_pow_iff_right (by decide)).1 ((pow_digitCount_le some).trans_lt short)
    omega

end Digits

section Powers

theorem ten_ne_zero : (10 : ℚ) ≠ 0 := by norm_num

theorem ten_pow_pos (e : ℤ) : 0 < (10 : ℚ) ^ e := zpow_pos (by norm_num) e

theorem ten_pow_add (d e : ℤ) : (10 : ℚ) ^ (d + e) = 10 ^ d * 10 ^ e := zpow_add₀ ten_ne_zero d e

theorem ten_pow_lt_iff {d e : ℤ} : (10 : ℚ) ^ d < 10 ^ e ↔ d < e :=
  zpow_lt_zpow_iff_right₀ (by norm_num)

theorem ten_pow_le_iff {d e : ℤ} : (10 : ℚ) ^ d ≤ 10 ^ e ↔ d ≤ e :=
  zpow_le_zpow_iff_right₀ (by norm_num)

theorem scaled_eq {least e : ℤ} (lower : least ≤ e) (c : ℚ) :
    c * 10 ^ e = c * 10 ^ (e - least).toNat * 10 ^ least := by
  have apart : ((e - least).toNat : ℤ) + least = e := by omega
  rw [mul_assoc, ← zpow_natCast, ← ten_pow_add, apart]

theorem adjusted_bounds {c : Nat} (positive : 0 < c) (e : ℤ) :
    (10 : ℚ) ^ adjusted c e ≤ c * 10 ^ e ∧ c * (10 : ℚ) ^ e < 10 ^ (adjusted c e + 1) := by
  have least : ((10 ^ (digitCount c - 1) : ℕ) : ℚ) ≤ c := Nat.cast_le.2 (pow_digitCount_le positive)
  have most : (c : ℚ) < ((10 ^ digitCount c : ℕ) : ℚ) := Nat.cast_lt.2 (lt_pow_digitCount c)
  have some_digits := digitCount_pos positive
  have first : adjusted c e = ((digitCount c - 1 : ℕ) : ℤ) + e := by unfold adjusted; omega
  have beyond : adjusted c e + 1 = (digitCount c : ℤ) + e := by unfold adjusted; omega
  rw [beyond, first, ten_pow_add, ten_pow_add, zpow_natCast, zpow_natCast]
  push_cast at least most
  exact ⟨mul_le_mul_of_nonneg_right least (ten_pow_pos e).le,
    mul_lt_mul_of_pos_right most (ten_pow_pos e)⟩

end Powers

end FormulaGrid.Decimal
