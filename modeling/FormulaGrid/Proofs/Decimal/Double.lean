import FormulaGrid.Decimal.Double
import FormulaGrid.Proofs.Decimal.Rational
import Mathlib.Data.Int.Log
import Mathlib.Data.Nat.Cast.Order.Field
import Mathlib.Data.Rat.Floor
import Mathlib.Tactic.Linarith
import Mathlib.Tactic.Ring
import Mathlib.Tactic.FieldSimp

/-! Double precision in rational numbers. A decimal number is read as a magnitude if it lies within
half a unit of it, and the shortest numeral of a magnitude is such a number. -/
namespace FormulaGrid.Double

open FormulaGrid.Decimal

/-- The magnitudes of double precision have as many binary digits as the precision allows, or the
least exponent. -/
structure Regular (x : Double) : Prop where
  short : x.significand < 2 ^ 53
  least : -1074 ≤ x.exponent
  greatest : x.exponent ≤ 971
  normal : x.exponent = -1074 ∨ 2 ^ 52 ≤ x.significand

/-- The least number that rounds to a magnitude, or the bound of those that do. -/
def low (x : Double) : ℚ := x.lowQuarters * 2 ^ (x.exponent - 2)

def high (x : Double) : ℚ := x.highQuarters * 2 ^ (x.exponent - 2)

/-- Whether a number rounds to a magnitude: a number halfway to another one does if the significand
is even. -/
def Rounds (x : Double) (q : ℚ) : Prop :=
  if x.significand % 2 = 0 then x.low ≤ q ∧ q ≤ x.high else x.low < q ∧ q < x.high

theorem two_pow_pos (e : ℤ) : 0 < (2 : ℚ) ^ e := zpow_pos (by norm_num) e

theorem two_pow_add (d e : ℤ) : (2 : ℚ) ^ (d + e) = 2 ^ d * 2 ^ e := zpow_add₀ (by norm_num) d e

theorem two_pow_lt_iff {d e : ℤ} : (2 : ℚ) ^ d < 2 ^ e ↔ d < e :=
  zpow_lt_zpow_iff_right₀ (by norm_num)

theorem two_pow_le_iff {d e : ℤ} : (2 : ℚ) ^ d ≤ 2 ^ e ↔ d ≤ e :=
  zpow_le_zpow_iff_right₀ (by norm_num)

theorem two_pow_add_nat (e : ℤ) (n : ℕ) : (2 : ℚ) ^ (e + n) = 2 ^ n * 2 ^ e := by
  rw [two_pow_add, zpow_natCast, mul_comm]

theorem two_pow_le_ten_pow {a b : Nat} (fewer : 28 * a ≤ 93 * b) : 2 ^ a ≤ 10 ^ b := by
  have close : 2 ^ 93 ≤ 10 ^ 28 := by norm_num
  have raised : (2 ^ a) ^ 28 ≤ (10 ^ b) ^ 28 :=
    calc (2 ^ a) ^ 28 = 2 ^ (28 * a) := by rw [← Nat.pow_mul, mul_comm]
      _ ≤ 2 ^ (93 * b) := Nat.pow_le_pow_right (by decide) fewer
      _ = (2 ^ 93) ^ b := Nat.pow_mul ..
      _ ≤ (10 ^ 28) ^ b := Nat.pow_le_pow_left close b
      _ = (10 ^ b) ^ 28 := by rw [← Nat.pow_mul, ← Nat.pow_mul, mul_comm]
  exact (Nat.pow_le_pow_iff_left (by decide)).1 raised

theorem two_pow_le_ten_pow_cast {a b : Nat} (fewer : 28 * a ≤ 93 * b) :
    (2 : ℚ) ^ (a : ℤ) ≤ 10 ^ (b : ℤ) ∧ (10 : ℚ) ^ (-b : ℤ) ≤ 2 ^ (-a : ℤ) := by
  have cast : (2 : ℚ) ^ (a : ℤ) ≤ 10 ^ (b : ℤ) := by
    rw [zpow_natCast, zpow_natCast]
    exact_mod_cast two_pow_le_ten_pow fewer
  refine ⟨cast, ?_⟩
  rw [zpow_neg, zpow_neg]
  exact inv_anti₀ (two_pow_pos a) cast

/-- The decimal logarithm that is taken of a binary one is too great by a trifle at most. -/
theorem ten_pow_le_two_pow {m : ℤ} (least : -1100 ≤ m) :
    (10 : ℚ) ^ (m * 643 / 2136) ≤ 2 ^ (m + 4) := by
  rcases Int.le_total 0 m with up | down
  · obtain ⟨n, rfl⟩ := Int.eq_ofNat_of_zero_le up
    obtain ⟨k, equal⟩ : ∃ k : ℕ, (n : ℤ) * 643 / 2136 = k := ⟨n * 643 / 2136, by omega⟩
    have less : 10 ^ k ≤ 2 ^ n := pow_le_pow_of_ratio pow_643_le (by decide) (by omega)
    calc (10 : ℚ) ^ ((n : ℤ) * 643 / 2136) = ((10 ^ k : ℕ) : ℚ) := by
          rw [equal, zpow_natCast, Nat.cast_pow, Nat.cast_ofNat]
      _ ≤ ((2 ^ n : ℕ) : ℚ) := Nat.cast_le.2 less
      _ = 2 ^ (n : ℤ) := by rw [zpow_natCast, Nat.cast_pow, Nat.cast_ofNat]
      _ ≤ 2 ^ ((n : ℤ) + 4) := two_pow_le_iff.2 (by omega)
  · rcases Int.le_total (-4) m with near | far
    · calc (10 : ℚ) ^ (m * 643 / 2136) ≤ 10 ^ (0 : ℤ) := ten_pow_le_iff.2 (by omega)
        _ = 2 ^ (0 : ℤ) := by rw [zpow_zero, zpow_zero]
        _ ≤ 2 ^ (m + 4) := two_pow_le_iff.2 (by omega)
    · obtain ⟨a, deep⟩ : ∃ a : ℕ, m + 4 = -a := ⟨(-(m + 4)).toNat, by omega⟩
      obtain ⟨b, equal⟩ : ∃ b : ℕ, m * 643 / 2136 = -b := ⟨(-(m * 643 / 2136)).toNat, by omega⟩
      rw [equal, deep]
      exact (two_pow_le_ten_pow_cast (by omega)).2

section Fractions

variable {base : Nat} {f : Nat × Nat}

theorem inUnits_pos (positive : 0 < base) (divisor : 0 < f.2) (e : ℤ) : 0 < (inUnits base e f).2 := by
  unfold inUnits
  split
  · exact Nat.mul_pos divisor (Nat.pow_pos positive)
  · exact divisor

theorem inUnits_dividend (positive : 0 < base) (dividend : 0 < f.1) (e : ℤ) :
    0 < (inUnits base e f).1 := by
  unfold inUnits
  split
  · exact dividend
  · exact Nat.mul_pos dividend (Nat.pow_pos positive)

theorem inUnits_eq (positive : 0 < base) (e : ℤ) :
    ((inUnits base e f).1 : ℚ) / (inUnits base e f).2 = f.1 / f.2 * (base : ℚ) ^ (-e) := by
  have unit : (base : ℚ) ≠ 0 := Nat.cast_ne_zero.2 (Nat.ne_of_gt positive)
  unfold inUnits
  split
  next up =>
    obtain ⟨k, rfl⟩ := Int.eq_ofNat_of_zero_le up
    simp only [Nat.pow_eq, Int.toNat_natCast, Nat.cast_mul, Nat.cast_pow, zpow_neg, zpow_natCast]
    rw [div_mul_eq_div_div, div_eq_mul_inv]
  next down =>
    obtain ⟨k, rfl⟩ := Int.exists_eq_neg_ofNat (le_of_not_ge down)
    simp only [Nat.pow_eq, Int.natAbs_neg, Int.natAbs_natCast, Nat.cast_mul, Nat.cast_pow, neg_neg,
      zpow_natCast]
    ring

theorem roundHalfEven_eq {n d m : Nat} (divisor : 0 < d) (above : (m : ℚ) - 1 / 2 ≤ n / d)
    (below : (n : ℚ) / d ≤ m + 1 / 2)
    (ties : m % 2 = 0 ∨ (m : ℚ) - 1 / 2 < n / d ∧ (n : ℚ) / d < m + 1 / 2) :
    roundHalfEven n d = m := by
  have unit : (0 : ℚ) < d := Nat.cast_pos.2 divisor
  rw [le_div_iff₀ unit] at above
  rw [div_le_iff₀ unit] at below
  rw [lt_div_iff₀ unit, div_lt_iff₀ unit] at ties
  have most : 2 * (m * d) ≤ 2 * n + d := by
    have : (2 * (m * d) : ℚ) ≤ 2 * n + d := by linarith
    exact_mod_cast this
  have least : 2 * n ≤ 2 * (m * d) + d := by
    have : (2 * n : ℚ) ≤ 2 * (m * d) + d := by linarith
    exact_mod_cast this
  have strict : m % 2 = 0 ∨ 2 * (m * d) < 2 * n + d ∧ 2 * n < 2 * (m * d) + d := by
    refine ties.imp_right fun ⟨lower, upper⟩ => ?_
    have lower : (2 * (m * d) : ℚ) < 2 * n + d := by linarith
    have upper : (2 * n : ℚ) < 2 * (m * d) + d := by linarith
    exact ⟨by exact_mod_cast lower, by exact_mod_cast upper⟩
  have whole := Nat.div_add_mod' n d
  have rest := Nat.mod_lt n divisor
  unfold roundHalfEven
  generalize n / d = quotient at *
  generalize n % d = remainder at *
  -- The integer is the quotient or the next one, and the remainder says which.
  have near : m = quotient ∨ m = quotient + 1 := by
    by_contra far
    rcases (show m + 1 ≤ quotient ∨ quotient + 2 ≤ m by omega) with less | more
    · have := Nat.mul_le_mul_right d less
      rw [Nat.add_mul] at this
      omega
    · have := Nat.mul_le_mul_right d more
      rw [Nat.add_mul] at this
      omega
  rcases near with rfl | rfl
  · rw [if_pos (by omega)]
  · rw [Nat.add_mul] at most least strict
    rw [if_neg (by omega)]

theorem roundHalfEven_cases (n d : Nat) :
    roundHalfEven n d = n / d ∨ roundHalfEven n d = n / d + 1 := by
  unfold roundHalfEven
  dsimp only
  split
  · exact .inl rfl
  · exact .inr rfl

theorem log2_bounds {n : Nat} (positive : 0 < n) :
    (2 : ℚ) ^ (n.log2 : ℤ) ≤ n ∧ (n : ℚ) < 2 ^ ((n.log2 : ℤ) + 1) := by
  have least := Nat.log2_self_le (Nat.ne_of_gt positive)
  have most : n < 2 ^ (n.log2 + 1) := Nat.lt_log2_self
  constructor
  · rw [zpow_natCast]
    exact_mod_cast least
  · rw [← Nat.cast_add_one, zpow_natCast]
    exact_mod_cast most

theorem fraction_bounds (dividend : 0 < f.1) (divisor : 0 < f.2) :
    (2 : ℚ) ^ ((f.1.log2 : ℤ) - f.2.log2 - 1) < f.1 / f.2 ∧
      (f.1 : ℚ) / f.2 < 2 ^ ((f.1.log2 : ℤ) - f.2.log2 + 1) := by
  obtain ⟨leastN, mostN⟩ := log2_bounds dividend
  obtain ⟨leastD, mostD⟩ := log2_bounds divisor
  have unit : (0 : ℚ) < f.2 := Nat.cast_pos.2 divisor
  generalize (f.1.log2 : ℤ) = m at *
  generalize (f.2.log2 : ℤ) = l at *
  constructor
  · rw [lt_div_iff₀ unit]
    calc (2 : ℚ) ^ (m - l - 1) * f.2 < 2 ^ (m - l - 1) * 2 ^ (l + 1) := by gcongr
      _ = 2 ^ m := by rw [← two_pow_add]; congr 1; omega
      _ ≤ f.1 := leastN
  · rw [div_lt_iff₀ unit]
    calc (f.1 : ℚ) < 2 ^ (m + 1) := mostN
      _ = 2 ^ (m - l + 1) * 2 ^ l := by rw [← two_pow_add]; congr 1; omega
      _ ≤ 2 ^ (m - l + 1) * f.2 := by gcongr

/-- Counted in units as many places down as a significand has digits, a fraction from `2 ^ e` on has
one digit more. -/
theorem pow_precision_le_iff (divisor : 0 < f.2) (e : ℤ) :
    Nat.pow 2 precision * (inUnits 2 (e - precision) f).2 ≤ (inUnits 2 (e - precision) f).1 ↔
      (2 : ℚ) ^ e ≤ f.1 / f.2 := by
  have scaled := inUnits_eq (f := f) (show 0 < 2 by decide) (e - precision)
  have positive := inUnits_pos (show 0 < 2 by decide) divisor (e - precision)
  generalize inUnits 2 (e - precision) f = g at *
  have divided : (0 : ℚ) < g.2 := Nat.cast_pos.2 positive
  have full : ((Nat.pow 2 precision : ℕ) : ℚ) = 2 ^ (precision : ℤ) := by
    rw [Nat.pow_eq, Nat.cast_pow, zpow_natCast, Nat.cast_ofNat]
  have shifted : (2 : ℚ) ^ (precision : ℤ) * 2 ^ (e - precision) = 2 ^ e := by
    rw [← two_pow_add]
    congr 1
    omega
  rw [← @Nat.cast_le ℚ, Nat.cast_mul, ← le_div_iff₀ divided, scaled, full, zpow_neg,
    Nat.cast_ofNat, ← div_eq_mul_inv, le_div_iff₀ (two_pow_pos _), shifted]

/-- The exponent of a fraction is that of its first binary digit, as many places down as a
significand has digits. -/
theorem exponentOf_eq (dividend : 0 < f.1) (divisor : 0 < f.2) {e : ℤ}
    (above : (2 : ℚ) ^ e ≤ f.1 / f.2) (below : (f.1 : ℚ) / f.2 < 2 ^ (e + 1)) :
    exponentOf f = max (-1074) (e - 52) := by
  obtain ⟨lower, upper⟩ := fraction_bounds dividend divisor
  have test := pow_precision_le_iff divisor ((f.1.log2 : ℤ) - f.2.log2)
  unfold exponentOf
  generalize (f.1.log2 : ℤ) - f.2.log2 = guess at *
  have after := two_pow_lt_iff.1 (above.trans_lt upper)
  have before := two_pow_lt_iff.1 (lower.trans below)
  have width : (precision : ℤ) = 53 := rfl
  have floor : leastExponent = -1074 := rfl
  dsimp only
  split
  next large =>
    have := two_pow_lt_iff.1 ((test.1 large).trans_lt below)
    omega
  next small =>
    have : ¬guess ≤ e := fun most => small (test.2 ((two_pow_le_iff.2 most).trans above))
    omega

/-- The exponent of a fraction is the one that leaves it as many digits as a significand has. -/
theorem exponentOf_unique (dividend : 0 < f.1) (divisor : 0 < f.2) {e : ℤ} (least : -1074 ≤ e)
    (below : (f.1 : ℚ) / f.2 < 2 ^ (e + 53))
    (above : e = -1074 ∨ (2 : ℚ) ^ (e + 52) ≤ f.1 / f.2) : exponentOf f = e := by
  have positive : (0 : ℚ) < f.1 / f.2 := div_pos (Nat.cast_pos.2 dividend) (Nat.cast_pos.2 divisor)
  have first : (2 : ℚ) ^ Int.log 2 ((f.1 : ℚ) / f.2) ≤ f.1 / f.2 := by
    exact_mod_cast Int.zpow_log_le_self (by decide) positive
  have next : (f.1 : ℚ) / f.2 < 2 ^ (Int.log 2 ((f.1 : ℚ) / f.2) + 1) := by
    exact_mod_cast Int.lt_zpow_succ_log_self (by decide) ((f.1 : ℚ) / f.2)
  rw [exponentOf_eq dividend divisor first next]
  have under := two_pow_lt_iff.1 (first.trans_lt below)
  rcases above with rfl | above
  · omega
  · have least := two_pow_lt_iff.1 (above.trans_lt next)
    omega

end Fractions

section Magnitudes

variable {x : Double} {q : ℚ}

theorem two_pow_quarter (e : ℤ) : (2 : ℚ) ^ e = 4 * 2 ^ (e - 2) := by
  have four : (4 : ℚ) = 2 ^ (2 : ℤ) := by norm_num
  rw [four, ← two_pow_add]
  congr 1
  omega

theorem high_eq (x : Double) : x.high = (x.significand + 1 / 2) * 2 ^ x.exponent := by
  rw [high, highQuarters, two_pow_quarter x.exponent]
  push_cast
  ring

theorem low_eq (positive : 0 < x.significand) :
    x.low = (x.significand -
      if x.significand = 2 ^ 52 ∧ -1074 < x.exponent then 1 / 4 else 1 / 2) * 2 ^ x.exponent := by
  rw [low, lowQuarters, two_pow_quarter x.exponent]
  have same : x.significand = Nat.pow 2 (precision - 1) ∧ leastExponent < x.exponent ↔
      x.significand = 2 ^ 52 ∧ -1074 < x.exponent := Iff.rfl
  simp only [same]
  split
  · rw [Nat.cast_sub (by omega)]
    push_cast
    ring
  · rw [Nat.cast_sub (by omega)]
    push_cast
    ring

theorem Rounds.between (rounds : x.Rounds q) :
    x.low ≤ q ∧ q ≤ x.high ∧ (x.significand % 2 = 0 ∨ x.low < q ∧ q < x.high) := by
  unfold Rounds at rounds
  split at rounds
  next even => exact ⟨rounds.1, rounds.2, .inl even⟩
  next odd => exact ⟨rounds.1.le, rounds.2.le, .inr rounds⟩

theorem rounded_eq {f : Nat × Nat} {e : ℤ} {m : Nat} (divisor : 0 < f.2)
    (above : ((m : ℚ) - 1 / 2) * 2 ^ e ≤ f.1 / f.2) (below : (f.1 : ℚ) / f.2 ≤ (m + 1 / 2) * 2 ^ e)
    (ties : m % 2 = 0 ∨
      ((m : ℚ) - 1 / 2) * 2 ^ e < f.1 / f.2 ∧ (f.1 : ℚ) / f.2 < (m + 1 / 2) * 2 ^ e) :
    roundHalfEven (inUnits 2 e f).1 (inUnits 2 e f).2 = m := by
  have unit := two_pow_pos e
  have scaled : ((inUnits 2 e f).1 : ℚ) / (inUnits 2 e f).2 = f.1 / f.2 / 2 ^ e := by
    rw [inUnits_eq (by decide), zpow_neg, ← div_eq_mul_inv, Nat.cast_ofNat]
  apply roundHalfEven_eq (inUnits_pos (by decide) divisor e) <;> rw [scaled]
  · exact (le_div_iff₀ unit).2 above
  · exact (div_le_iff₀ unit).2 below
  · exact ties.imp_right fun ⟨lower, upper⟩ => ⟨(lt_div_iff₀ unit).2 lower, (div_lt_iff₀ unit).2 upper⟩

/-- The magnitude of a rounded significand, which may have been carried to one digit more. -/
theorem nearest?_of_rounded {f : Nat × Nat} {e : ℤ} {m : Nat} (exponent : exponentOf f = e)
    (rounded : roundHalfEven (inUnits 2 e f).1 (inUnits 2 e f).2 = m)
    (inside : if m = 2 ^ 53 then e < 971 else e ≤ 971) :
    nearest? f = some (if m = 2 ^ 53 then ⟨2 ^ 52, e + 1⟩ else ⟨m, e⟩) := by
  have full : Nat.pow 2 precision = 2 ^ 53 := rfl
  have ceiling : greatestExponent = 971 := rfl
  unfold nearest?
  rw [exponent]
  dsimp only
  rw [rounded, full, ceiling]
  by_cases carried : m = 2 ^ 53
  · rw [if_pos carried] at inside ⊢
    rw [if_pos carried, if_neg (show ¬ 971 < e + 1 by omega)]
    rfl
  · rw [if_neg carried] at inside ⊢
    rw [if_neg carried, if_neg (show ¬ 971 < e by omega)]

/-- A number below the least magnitude of an exponent has one place more than that magnitude, and
rounding it carries. -/
theorem nearest?_carried {f : Nat × Nat} (greatest : x.exponent ≤ 971) (dividend : 0 < f.1)
    (divisor : 0 < f.2) (border : x.significand = 2 ^ 52) (normal : -1074 < x.exponent)
    (above : ((2 : ℚ) ^ 52 - 1 / 4) * 2 ^ x.exponent ≤ f.1 / f.2)
    (below : (f.1 : ℚ) / f.2 < 2 ^ 52 * 2 ^ x.exponent) : nearest? f = some x := by
  obtain ⟨e, same⟩ : ∃ e, x.exponent = e + 1 := ⟨x.exponent - 1, by omega⟩
  have halved : (2 : ℚ) ^ x.exponent = 2 * 2 ^ e := by
    rw [same, zpow_add_one₀ two_ne_zero, mul_comm]
  have half := two_pow_pos e
  rw [halved] at above below
  have exponent : exponentOf f = e := by
    refine exponentOf_unique dividend divisor (by omega) ?_ (.inr ?_)
    · rw [show (53 : ℤ) = (53 : ℕ) from rfl, two_pow_add_nat]
      linarith
    · rw [show (52 : ℤ) = (52 : ℕ) from rfl, two_pow_add_nat]
      linarith
  have rounded : roundHalfEven (inUnits 2 e f).1 (inUnits 2 e f).2 = 2 ^ 53 := by
    refine rounded_eq divisor ?_ ?_ (.inl (by decide)) <;> push_cast <;> linarith
  rw [nearest?_of_rounded exponent rounded (by rw [if_pos rfl]; omega), if_pos rfl, ← same, ← border]

theorem nearest?_within {f : Nat × Nat} (regular : x.Regular) (dividend : 0 < f.1)
    (divisor : 0 < f.2)
    (above : ((x.significand : ℚ) - 1 / 2) * 2 ^ x.exponent ≤ f.1 / f.2)
    (below : (f.1 : ℚ) / f.2 ≤ (x.significand + 1 / 2) * 2 ^ x.exponent)
    (ties : x.significand % 2 = 0 ∨
      ((x.significand : ℚ) - 1 / 2) * 2 ^ x.exponent < f.1 / f.2 ∧
        (f.1 : ℚ) / f.2 < (x.significand + 1 / 2) * 2 ^ x.exponent)
    (inside : x.significand = 2 ^ 52 → -1074 < x.exponent →
      2 ^ 52 * 2 ^ x.exponent ≤ (f.1 : ℚ) / f.2) : nearest? f = some x := by
  obtain ⟨short, least, greatest, normal⟩ := regular
  have unit := two_pow_pos x.exponent
  have digits : ((x.significand : ℚ) + 1) ≤ 2 ^ 53 := by
    have cast : ((x.significand + 1 : ℕ) : ℚ) ≤ ((2 ^ 53 : ℕ) : ℚ) :=
      Nat.cast_le.2 (Nat.succ_le_of_lt short)
    rwa [Nat.cast_add_one, Nat.cast_pow, Nat.cast_ofNat] at cast
  have exponent : exponentOf f = x.exponent := by
    refine exponentOf_unique dividend divisor least ?_ (or_iff_not_imp_left.2 fun higher => ?_)
    · rw [show (53 : ℤ) = (53 : ℕ) from rfl, two_pow_add_nat]
      refine below.trans_lt (mul_lt_mul_of_pos_right ?_ unit)
      linarith
    · rw [show (52 : ℤ) = (52 : ℕ) from rfl, two_pow_add_nat]
      rcases Nat.lt_or_eq_of_le (normal.resolve_left higher) with larger | equal
      · have more : (2 : ℚ) ^ 52 + 1 ≤ x.significand := by exact_mod_cast larger
        refine le_trans (mul_le_mul_of_nonneg_right ?_ unit.le) above
        linarith
      · exact inside equal.symm (by omega)
  have rounded := rounded_eq divisor above below ties
  have apart := Nat.ne_of_lt short
  rw [nearest?_of_rounded exponent rounded (by rw [if_neg apart]; exact greatest), if_neg apart]

/-- What rounds to a magnitude is read as that magnitude. -/
theorem nearest?_eq {f : Nat × Nat} (regular : x.Regular) (positive : 0 < x.significand)
    (dividend : 0 < f.1) (divisor : 0 < f.2) (rounds : x.Rounds (f.1 / f.2)) :
    nearest? f = some x := by
  obtain ⟨above, below, ties⟩ := rounds.between
  rw [high_eq] at below ties
  rw [low_eq positive] at above ties
  by_cases border : x.significand = 2 ^ 52 ∧ -1074 < x.exponent ∧
      (f.1 : ℚ) / f.2 < 2 ^ 52 * 2 ^ x.exponent
  · obtain ⟨least, normal, lower⟩ := border
    rw [if_pos ⟨least, normal⟩, least] at above
    push_cast at above
    exact nearest?_carried regular.greatest dividend divisor least normal above lower
  · have wider : ((x.significand : ℚ) - 1 / 2) * 2 ^ x.exponent ≤ (x.significand -
        if x.significand = 2 ^ 52 ∧ -1074 < x.exponent then 1 / 4 else 1 / 2) * 2 ^ x.exponent := by
      refine mul_le_mul_of_nonneg_right ?_ (two_pow_pos x.exponent).le
      split <;> linarith
    refine nearest?_within regular dividend divisor (wider.trans above) below
      (ties.imp_right fun ⟨lower, upper⟩ => ⟨wider.trans_lt lower, upper⟩) fun least normal => ?_
    exact not_lt.1 fun lower => border ⟨least, normal, lower⟩

theorem quarters_eq (x : Double) (count : Nat) :
    ((x.quarters count).1 : ℚ) / (x.quarters count).2 = count * 2 ^ (x.exponent - 2) := by
  rw [quarters, inUnits_eq (by decide), Nat.cast_one, div_one, Nat.cast_ofNat, neg_sub]

theorem quarters_pos (x : Double) (count : Nat) : 0 < (x.quarters count).2 :=
  inUnits_pos (by decide) Nat.one_pos _

theorem quarters_unit (x : Double) (count other : Nat) :
    (x.quarters count).2 = (x.quarters other).2 := by
  unfold quarters inUnits
  split <;> rfl

theorem decimal_eq (count : Nat) (place : ℤ) :
    ((inUnits 10 (-place) (count, 1)).1 : ℚ) / (inUnits 10 (-place) (count, 1)).2 =
      count * 10 ^ place := by
  rw [inUnits_eq (by decide), Nat.cast_one, div_one, neg_neg, Nat.cast_ofNat]

theorem holds_iff {place : ℤ} {count : Nat} : x.holds place count ↔ x.Rounds (count * 10 ^ place) := by
  have unit : (0 : ℚ) < (x.quarters x.lowQuarters).2 := Nat.cast_pos.2 (x.quarters_pos _)
  have divisor : (0 : ℚ) < (inUnits 10 (-place) (count, 1)).2 :=
    Nat.cast_pos.2 (inUnits_pos (by decide) Nat.one_pos _)
  have lower := x.quarters_eq x.lowQuarters
  have upper := x.quarters_eq x.highQuarters
  rw [x.quarters_unit x.highQuarters x.lowQuarters] at upper
  rw [Rounds, low, high, ← lower, ← upper, ← decimal_eq, div_le_div_iff₀ unit divisor,
    div_le_div_iff₀ divisor unit, div_lt_div_iff₀ unit divisor, div_lt_div_iff₀ divisor unit]
  unfold holds
  dsimp only
  split
  · simp only [Bool.and_eq_true, decide_eq_true_eq]
    exact_mod_cast Iff.rfl
  · simp only [Bool.and_eq_true, decide_eq_true_eq]
    exact_mod_cast Iff.rfl

theorem holds_of_onGrid {place : ℤ} {multiple : Nat} (found : x.onGrid? place = some multiple) :
    x.holds place multiple := by
  unfold onGrid? at found
  dsimp only at found
  split at found
  next below above =>
    cases found
    rcases roundHalfEven_cases (inUnits 10 place (x.quarters (4 * x.significand))).1
      (inUnits 10 place (x.quarters (4 * x.significand))).2 with down | up
    · rw [down]
      exact below
    · rw [up]
      exact above
  next below _ =>
    cases found
    exact below
  next _ above =>
    cases found
    exact above
  next => cases found

/-- On a grid with a unit of at most a quarter of the last binary place there is a number that
rounds to the magnitude: the one below. -/
theorem onGrid_of_fine {place : ℤ} (positive : 0 < x.significand)
    (fine : (10 : ℚ) ^ place ≤ 2 ^ (x.exponent - 2)) : (x.onGrid? place).isSome := by
  have unit := two_pow_pos (x.exponent - 2)
  have step := ten_pow_pos place
  have value := inUnits_eq (f := x.quarters (4 * x.significand)) (show 0 < 10 by decide) place
  have divisor := inUnits_pos (show 0 < 10 by decide) (x.quarters_pos (4 * x.significand)) place
  rw [quarters_eq, zpow_neg, ← div_eq_mul_inv, Nat.cast_ofNat] at value
  unfold onGrid?
  dsimp only
  generalize inUnits 10 place (x.quarters (4 * x.significand)) = g at *
  rw [Nat.cast_mul, Nat.cast_ofNat, eq_div_iff step.ne'] at value
  have least : ((g.1 / g.2 : ℕ) : ℚ) * 10 ^ place ≤ 4 * x.significand * 2 ^ (x.exponent - 2) := by
    rw [← value]
    exact mul_le_mul_of_nonneg_right Nat.cast_div_le step.le
  have most : (4 * x.significand * 2 ^ (x.exponent - 2) : ℚ) <
      ((g.1 / g.2 : ℕ) + 1) * 10 ^ place := by
    have next : g.1 < g.2 * (g.1 / g.2 + 1) := Nat.lt_mul_div_succ g.1 divisor
    rw [← value]
    refine mul_lt_mul_of_pos_right ?_ step
    rw [div_lt_iff₀ (Nat.cast_pos.2 divisor), mul_comm]
    exact_mod_cast next
  have below : x.holds place (g.1 / g.2) := by
    have border : x.low ≤ (4 * x.significand - 1) * 2 ^ (x.exponent - 2) := by
      have less : x.lowQuarters + 1 ≤ 4 * x.significand := by
        unfold lowQuarters
        split <;> omega
      have cast : (x.lowQuarters : ℚ) + 1 ≤ 4 * x.significand := by exact_mod_cast less
      exact mul_le_mul_of_nonneg_right (by linarith) unit.le
    have top : x.high = (4 * x.significand + 2) * 2 ^ (x.exponent - 2) := by
      rw [high, highQuarters]
      push_cast
      rfl
    have lower : x.low < (g.1 / g.2 : ℕ) * 10 ^ place := by linarith
    have upper : ((g.1 / g.2 : ℕ) : ℚ) * 10 ^ place < x.high := by linarith
    rw [holds_iff, Rounds]
    split
    · exact ⟨lower.le, upper.le⟩
    · exact ⟨lower, upper⟩
  rw [below]
  cases x.holds place (g.1 / g.2 + 1) <;> rfl

theorem shortestFrom_holds {count : Nat} {place : ℤ} {i : Nat} (inside : i < count)
    (found : (x.onGrid? (place - i)).isSome) :
    x.holds (x.shortestFrom count place).2 (x.shortestFrom count place).1 := by
  induction count generalizing place i with
  | zero => exact absurd inside (Nat.not_lt_zero i)
  | succ count ih =>
    unfold shortestFrom
    cases here : x.onGrid? place with
    | some multiple => exact holds_of_onGrid here
    | none =>
      cases i with
      | zero =>
        rw [Nat.cast_zero, sub_zero, here] at found
        cases found
      | succ i =>
        refine ih (Nat.lt_of_succ_lt_succ inside) ?_
        rw [show place - 1 - (i : ℤ) = place - ((i + 1 : ℕ) : ℤ) by push_cast; ring]
        exact found

/-- The shortest numeral of a magnitude rounds to it. -/
theorem shortest_holds (regular : x.Regular) (positive : 0 < x.significand) :
    x.holds x.shortest.2 x.shortest.1 := by
  obtain ⟨short, least, greatest, normal⟩ := regular
  have digits : x.significand.log2 < 53 := (Nat.log2_lt (Nat.ne_of_gt positive)).2 short
  refine shortestFrom_holds (i := 19) (by decide) (onGrid_of_fine positive ?_)
  generalize first : (x.significand.log2 + x.exponent + 1 : ℤ) = m
  have coarse := ten_pow_le_two_pow (m := m) (by omega)
  have fine : (10 : ℚ) ^ (m * 643 / 2136) = 10 ^ 18 * 10 ^ (m * 643 / 2136 + 1 - (19 : ℕ)) := by
    rw [← zpow_natCast, ← ten_pow_add]
    congr 1
    push_cast
    ring
  have binary : (2 : ℚ) ^ (m + 4) = 2 ^ 59 * 2 ^ (m - 55) := by
    rw [← two_pow_add_nat]
    congr 1
    push_cast
    ring
  have unit : (2 : ℚ) ^ (m - 55) ≤ 2 ^ (x.exponent - 2) := two_pow_le_iff.2 (by omega)
  have step := ten_pow_pos (m * 643 / 2136 + 1 - (19 : ℕ))
  rw [fine, binary] at coarse
  norm_num at coarse
  linarith

theorem two_pow_le_low (positive : 0 < x.significand) : (2 : ℚ) ^ (x.exponent - 2) ≤ x.low := by
  have counted : 1 ≤ x.lowQuarters := by
    unfold lowQuarters
    split <;> omega
  exact le_mul_of_one_le_left (two_pow_pos _).le (by exact_mod_cast counted)

theorem Rounds.count_pos {count : Nat} {place : ℤ} (positive : 0 < x.significand)
    (rounds : x.Rounds (count * 10 ^ place)) : 0 < count := by
  refine Nat.pos_of_ne_zero fun none => ?_
  have above := (two_pow_le_low positive).trans rounds.between.1
  rw [none, Nat.cast_zero, zero_mul] at above
  exact absurd (two_pow_pos _) (not_lt.2 above)

theorem ofDecimal?_zero (place : ℤ) : ofDecimal? 0 place = some ⟨0, -1074⟩ := by
  simp [ofDecimal?, leastExponent]

theorem ofDecimal?_of_rounds {count : Nat} {place : ℤ} (regular : x.Regular)
    (positive : 0 < x.significand) (rounds : x.Rounds (count * 10 ^ place)) :
    ofDecimal? count place = some x := by
  obtain ⟨above, below, _⟩ := rounds.between
  have unit := two_pow_pos x.exponent
  have nonzero := rounds.count_pos positive
  have bottom : (2 : ℚ) ^ (-1076 : ℤ) ≤ count * 10 ^ place :=
    calc (2 : ℚ) ^ (-1076 : ℤ) ≤ 2 ^ (x.exponent - 2) :=
          two_pow_le_iff.2 (by have := regular.least; omega)
      _ ≤ x.low := two_pow_le_low positive
      _ ≤ count * 10 ^ place := above
  have top : (count : ℚ) * 10 ^ place < 2 ^ (1024 : ℤ) := by
    have digits : ((x.significand : ℚ) + 1) ≤ 2 ^ 53 := by exact_mod_cast Nat.succ_le_of_lt regular.short
    rw [high_eq] at below
    calc (count : ℚ) * 10 ^ place < 2 ^ 53 * 2 ^ x.exponent :=
          below.trans_lt (mul_lt_mul_of_pos_right (by linarith) unit)
      _ = 2 ^ (x.exponent + (53 : ℕ)) := (two_pow_add_nat ..).symm
      _ ≤ 2 ^ (1024 : ℤ) := two_pow_le_iff.2 (by have := regular.greatest; push_cast; omega)
  obtain ⟨leading, beyond⟩ := adjusted_bounds nonzero place
  have least : -330 ≤ adjusted count place := by
    have small : (10 : ℚ) ^ (-(330 : ℕ) : ℤ) ≤ 2 ^ (-(1076 : ℕ) : ℤ) :=
      (two_pow_le_ten_pow_cast (by decide)).2
    have := ten_pow_lt_iff.1 ((small.trans bottom).trans_lt beyond)
    omega
  have most : adjusted count place ≤ 330 := by
    have large : (2 : ℚ) ^ ((1024 : ℕ) : ℤ) ≤ 10 ^ ((331 : ℕ) : ℤ) :=
      (two_pow_le_ten_pow_cast (by decide)).1
    have := ten_pow_lt_iff.1 ((leading.trans_lt top).trans_le large)
    omega
  unfold ofDecimal?
  dsimp only
  rw [if_neg (by omega), if_neg (by omega)]
  refine nearest?_eq regular positive (inUnits_dividend (by decide) nonzero _)
    (inUnits_pos (by decide) Nat.one_pos _) ?_
  rw [decimal_eq]
  exact rounds

end Magnitudes

end FormulaGrid.Double
