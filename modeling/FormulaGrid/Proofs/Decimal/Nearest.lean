import FormulaGrid.Proofs.Decimal.Rational
import Mathlib.Algebra.Ring.Int.Parity
import Mathlib.Data.Int.Log
import Mathlib.Data.Rat.Floor

/-! Rounding of rational numbers, apart from any arithmetic: the nearest number of at most 28
significant digits, and the one whose last digit is even if two are nearest. There is always just
one. It is found on the grid of the last digit, and only where a number lies between the midpoints
of this grid decides which one it is. -/
namespace FormulaGrid.Decimal

/-- Whether a number can be written with at most 28 significant digits. -/
def Short (q : ℚ) : Prop := ∃ m k : ℤ, |m| < 10 ^ 28 ∧ q = m * 10 ^ k

/-- Whether the last one of 28 significant digits of a number is even. -/
def EndsEven (q : ℚ) : Prop :=
  ∃ m k : ℤ, 10 ^ 27 ≤ |m| ∧ |m| < 10 ^ 28 ∧ Even m ∧ q = m * 10 ^ k

/-- Whether `r` is the short number nearest to `q`, the even one of two. -/
structure Nearest (q r : ℚ) : Prop where
  short : Short r
  closest : ∀ s, Short s → |q - r| ≤ |q - s|
  even : ∀ s, Short s → |q - s| = |q - r| → s = r ∨ EndsEven r

/-- Half a unit of the last one of 28 digits, the first of which has the exponent `a`. -/
def halfUnit (a : ℤ) : ℚ := 5 * 10 ^ (a - 28)

/-- Whether a positive number whose first digit has the exponent `a` is rounded to `m` units of its
28th digit. -/
structure RoundsAt (a : ℤ) (q : ℚ) (m : ℕ) : Prop where
  least : 10 ^ a ≤ q
  most : q < 10 ^ (a + 1)
  above : (2 * m - 1) * halfUnit a ≤ q
  below : q ≤ (2 * m + 1) * halfUnit a
  tie : q = (2 * m - 1) * halfUnit a ∨ q = (2 * m + 1) * halfUnit a → Even m

/-- Whether a number lies halfway between `m` units of the 28th digit and the `n` units next to
them. -/
def Neighbour (a : ℤ) (q : ℚ) (m : ℕ) (n : ℤ) : Prop :=
  q = (2 * m - 1) * halfUnit a ∧ n = m - 1 ∨ q = (2 * m + 1) * halfUnit a ∧ n = m + 1

section Units

variable {a : ℤ}

theorem halfUnit_pos (a : ℤ) : 0 < halfUnit a := mul_pos (by norm_num) (ten_pow_pos _)

theorem unit_eq (a : ℤ) : (10 : ℚ) ^ (a - 27) = 2 * halfUnit a := by
  have tenfold : (10 : ℚ) ^ (a - 27) = 10 * 10 ^ (a - 28) := by
    rw [← zpow_one_add₀ ten_ne_zero]
    congr 1
    omega
  rw [tenfold, halfUnit]
  ring

theorem halfUnit_eq {least : ℤ} (lower : least + 28 ≤ a) :
    halfUnit a = 10 ^ (a - 28 - least).toNat * (5 * 10 ^ least) := by
  have power := scaled_eq (show least ≤ a - 28 by omega) 5
  rw [halfUnit, power]
  ring

theorem first_eq (a : ℤ) : (10 : ℚ) ^ a = 10 ^ 27 * (2 * halfUnit a) := by
  rw [← unit_eq, ← zpow_natCast, ← ten_pow_add]
  congr 1
  push_cast
  omega

theorem beyond_eq (a : ℤ) : (10 : ℚ) ^ (a + 1) = 10 ^ 28 * (2 * halfUnit a) := by
  rw [← unit_eq, ← zpow_natCast, ← ten_pow_add]
  congr 1
  push_cast
  omega

theorem half_le_sub {u q : ℚ} {n k : ℤ} (unit : 0 < u) (fewer : n < k)
    (above : (2 * k - 1) * u ≤ q) :
    u ≤ q - n * (2 * u) ∧ (q - n * (2 * u) = u → n = k - 1 ∧ q = (2 * k - 1) * u) := by
  have apart : (n : ℚ) + 1 ≤ k := by exact_mod_cast fewer
  have steps := mul_le_mul_of_nonneg_right apart unit.le
  refine ⟨by linarith, fun tight => ?_⟩
  have bound : (k : ℚ) * u ≤ (n + 1) * u := by linarith
  have whole : k ≤ n + 1 := by exact_mod_cast le_of_mul_le_mul_right bound unit
  obtain rfl : n = k - 1 := by omega
  refine ⟨rfl, ?_⟩
  push_cast at tight
  linarith

end Units

section Shortness

variable {q r s : ℚ} {a : ℤ}

theorem short_zero : Short 0 := ⟨0, 0, by norm_num, by simp⟩

theorem Short.neg (short : Short q) : Short (-q) := by
  obtain ⟨m, k, digits, rfl⟩ := short
  exact ⟨-m, k, by rwa [abs_neg], by push_cast; ring⟩

theorem EndsEven.neg (even : EndsEven q) : EndsEven (-q) := by
  obtain ⟨m, k, long, digits, even, rfl⟩ := even
  exact ⟨-m, k, by rwa [abs_neg], by rwa [abs_neg], even.neg, by push_cast; ring⟩

theorem Nearest.neg (nearest : Nearest q r) : Nearest (-q) (-r) := by
  have mirrored (s t : ℚ) : |-s - -t| = |s - t| := by rw [← abs_neg (s - t)]; congr 1; ring
  have turned (s t : ℚ) : |-s - t| = |s - -t| := by rw [← abs_neg (s - -t)]; congr 1; ring
  refine ⟨nearest.short.neg, fun s short => ?_, fun s short same => ?_⟩
  · rw [mirrored, turned]
    exact nearest.closest (-s) short.neg
  · rw [mirrored, turned] at same
    rcases nearest.even (-s) short.neg same with rfl | even
    · exact .inl (neg_neg s).symm
    · exact .inr even.neg

theorem Short.multiple (short : Short s) (large : 10 ^ a ≤ s) :
    ∃ n : ℤ, s = n * (2 * halfUnit a) := by
  obtain ⟨m, k, digits, rfl⟩ := short
  have place : a - 27 ≤ k := by
    have few : (m : ℚ) < 10 ^ (28 : ℤ) := by exact_mod_cast lt_of_abs_lt digits
    have bounded : (m : ℚ) * 10 ^ k < 10 ^ (28 + k) := by
      rw [ten_pow_add]
      exact mul_lt_mul_of_pos_right few (ten_pow_pos k)
    have order := ten_pow_lt_iff.1 (large.trans_lt bounded)
    omega
  refine ⟨m * 10 ^ (k - (a - 27)).toNat, ?_⟩
  rw [scaled_eq place, unit_eq]
  push_cast
  rfl

theorem EndsEven.even {n : ℕ} (even : EndsEven (n * 10 ^ a)) (long : 10 ^ 27 ≤ n)
    (digits : n < 10 ^ 28) : Even n := by
  obtain ⟨m, k, long', digits', even, same⟩ := even
  have magnitude : (n : ℚ) * 10 ^ a = |(m : ℚ)| * 10 ^ k := by
    rw [← abs_of_pos (ten_pow_pos k), ← abs_mul, ← same, abs_of_nonneg]
    exact mul_nonneg n.cast_nonneg (ten_pow_pos a).le
  have bounds {j : ℤ} {c : ℚ} (least : 10 ^ (27 : ℤ) ≤ c) (most : c < 10 ^ (28 : ℤ)) :
      (10 : ℚ) ^ (27 + j) ≤ c * 10 ^ j ∧ c * 10 ^ j < (10 : ℚ) ^ (28 + j) := by
    rw [ten_pow_add, ten_pow_add]
    exact ⟨mul_le_mul_of_nonneg_right least (ten_pow_pos j).le,
      mul_lt_mul_of_pos_right most (ten_pow_pos j)⟩
  have first := bounds (j := a) (c := n) (by exact_mod_cast long) (by exact_mod_cast digits)
  have second := bounds (j := k) (c := |(m : ℚ)|) (by exact_mod_cast long')
    (by exact_mod_cast digits')
  rw [magnitude] at first
  have lower := ten_pow_lt_iff.1 (first.1.trans_lt second.2)
  have upper := ten_pow_lt_iff.1 (second.1.trans_lt first.2)
  obtain rfl : k = a := by omega
  have count : (n : ℤ) = |m| := by exact_mod_cast mul_right_cancel₀ (ten_pow_pos k).ne' magnitude
  exact (Int.even_coe_nat n).1 (count ▸ even_abs.2 even)

end Shortness

namespace RoundsAt

variable {a : ℤ} {q s : ℚ} {m : ℕ}

theorem long (rounds : RoundsAt a q m) : 10 ^ 27 ≤ m := by
  have unit := halfUnit_pos a
  have bound : (10 : ℚ) ^ 27 * 2 * halfUnit a ≤ (2 * m + 1) * halfUnit a := by
    have least := rounds.least.trans rounds.below
    rw [first_eq] at least
    linarith
  have count : 10 ^ 27 * 2 ≤ 2 * m + 1 := by exact_mod_cast le_of_mul_le_mul_right bound unit
  omega

theorem digits (rounds : RoundsAt a q m) : m ≤ 10 ^ 28 := by
  have unit := halfUnit_pos a
  have bound : (2 * m - 1) * halfUnit a < (10 : ℚ) ^ 28 * 2 * halfUnit a := by
    have most := rounds.above.trans_lt rounds.most
    rw [beyond_eq] at most
    linarith
  have count : (2 * m : ℚ) < 10 ^ 28 * 2 + 1 := by linarith [lt_of_mul_lt_mul_right bound unit.le]
  have whole : 2 * m < 10 ^ 28 * 2 + 1 := by exact_mod_cast count
  omega

theorem near (rounds : RoundsAt a q m) : |q - m * (2 * halfUnit a)| ≤ halfUnit a := by
  rw [abs_le]
  constructor <;> linarith [rounds.above, rounds.below]

theorem closest (rounds : RoundsAt a q m) (n : ℤ) :
    |q - m * (2 * halfUnit a)| ≤ |q - n * (2 * halfUnit a)| ∧
      (|q - n * (2 * halfUnit a)| = |q - m * (2 * halfUnit a)| →
        n = m ∨ Even m ∧ Neighbour a q m n) := by
  have unit := halfUnit_pos a
  have near := rounds.near
  rcases lt_trichotomy n m with fewer | rfl | more
  · obtain ⟨far, tight⟩ := half_le_sub unit fewer (by exact_mod_cast rounds.above)
    rw [abs_of_pos (unit.trans_le far)]
    refine ⟨near.trans far, fun same => .inr ?_⟩
    obtain ⟨index, tied⟩ := tight (le_antisymm (same ▸ near) far)
    rw [Int.cast_natCast] at tied
    exact ⟨rounds.tie (.inl tied), .inl ⟨tied, index⟩⟩
  · exact ⟨le_refl _, fun _ => .inl rfl⟩
  · -- The same on the other side of zero.
    have above : (2 * ((-m : ℤ) : ℚ) - 1) * halfUnit a ≤ -q := by
      push_cast
      linarith [rounds.below]
    obtain ⟨far, tight⟩ := half_le_sub unit (neg_lt_neg more) above
    have mirrored : -q - ((-n : ℤ) : ℚ) * (2 * halfUnit a) = -(q - n * (2 * halfUnit a)) := by
      push_cast
      ring
    rw [mirrored] at far tight
    rw [abs_of_neg (neg_pos.1 (unit.trans_le far))]
    refine ⟨near.trans far, fun same => .inr ?_⟩
    obtain ⟨index, tied⟩ := tight (le_antisymm (same ▸ near) far)
    have tied : q = (2 * m + 1) * halfUnit a := by
      push_cast at tied
      linarith
    exact ⟨rounds.tie (.inr tied), .inr ⟨tied, by omega⟩⟩

theorem onGrid (rounds : RoundsAt a q m) (short : Short s) :
    ∃ n : ℤ, |q - n * (2 * halfUnit a)| ≤ |q - s| ∧
      (|q - n * (2 * halfUnit a)| = |q - s| → s = n * (2 * halfUnit a)) := by
  by_cases large : 10 ^ a ≤ s
  · obtain ⟨n, rfl⟩ := short.multiple large
    exact ⟨n, le_refl _, fun _ => rfl⟩
  · have first : ((10 ^ 27 : ℤ) : ℚ) * (2 * halfUnit a) = 10 ^ a := by
      rw [first_eq]
      push_cast
      rfl
    have nearer : |q - 10 ^ a| < |q - s| := by
      rw [abs_of_nonneg (sub_nonneg.2 rounds.least)]
      exact lt_of_lt_of_le (by linarith) (le_abs_self _)
    refine ⟨10 ^ 27, ?_, ?_⟩ <;> rw [first]
    · exact nearer.le
    · exact fun same => absurd same nearer.ne

theorem short (rounds : RoundsAt a q m) : Short (m * 10 ^ (a - 27)) := by
  rcases Nat.lt_or_eq_of_le rounds.digits with fewer | rfl
  · exact ⟨m, a - 27, by simpa [abs_of_nonneg] using (by exact_mod_cast fewer), by simp⟩
  · refine ⟨10 ^ 27, a - 26, by norm_num, ?_⟩
    rw [show a - 26 = (a - 27) + 1 by omega, zpow_add_one₀ ten_ne_zero]
    push_cast
    ring

theorem endsEven (rounds : RoundsAt a q m) (even : Even m) : EndsEven (m * 10 ^ (a - 27)) := by
  have long := rounds.long
  rcases Nat.lt_or_eq_of_le rounds.digits with fewer | rfl
  · refine ⟨m, a - 27, ?_, ?_, (Int.even_coe_nat m).2 even, by simp⟩
    · rw [abs_of_nonneg (Int.natCast_nonneg m)]
      exact_mod_cast long
    · rw [abs_of_nonneg (Int.natCast_nonneg m)]
      exact_mod_cast fewer
  · refine ⟨10 ^ 27, a - 26, by norm_num, by norm_num, by decide, ?_⟩
    rw [show a - 26 = (a - 27) + 1 by omega, zpow_add_one₀ ten_ne_zero]
    push_cast
    ring

/-- Rounding to units of the 28th digit finds the nearest short number. -/
theorem nearest (rounds : RoundsAt a q m) : Nearest q (m * 10 ^ (a - 27)) := by
  refine ⟨rounds.short, fun s short => ?_, fun s short same => ?_⟩ <;>
    obtain ⟨n, nearer, equal⟩ := rounds.onGrid short
  · rw [unit_eq]
    exact (rounds.closest n).1.trans nearer
  · rw [unit_eq] at same
    have level := le_antisymm nearer (same.trans_le (rounds.closest n).1)
    rcases (rounds.closest n).2 (level.trans same) with rfl | ⟨even, _⟩
    · left
      rw [equal level, unit_eq]
      simp
    · exact .inr (rounds.endsEven even)

/-- At a tie the first digits of both neighbours are in the same place. -/
theorem neighbour_bounds {n : ℤ} (rounds : RoundsAt a q m) (even : Even m)
    (tied : Neighbour a q m n) : ∃ k : ℕ, n = k ∧ ¬ Even k ∧ 10 ^ 27 ≤ k ∧ k < 10 ^ 28 := by
  have unit := halfUnit_pos a
  have long := rounds.long
  have digits := rounds.digits
  have parity := Nat.even_iff.1 even
  rcases tied with ⟨tied, index⟩ | ⟨tied, index⟩
  · have bound : (10 : ℚ) ^ 27 * 2 * halfUnit a ≤ (2 * m - 1) * halfUnit a := by
      have least := rounds.least
      rw [first_eq] at least
      linarith
    have count : (10 : ℚ) ^ 27 * 2 + 1 ≤ 2 * m := by linarith [le_of_mul_le_mul_right bound unit]
    have whole : 10 ^ 27 * 2 + 1 ≤ 2 * m := by exact_mod_cast count
    exact ⟨m - 1, by omega, by rw [Nat.even_iff]; omega, by omega, by omega⟩
  · have bound : (2 * m + 1) * halfUnit a < (10 : ℚ) ^ 28 * 2 * halfUnit a := by
      have most := rounds.most
      rw [beyond_eq] at most
      linarith
    have count : (2 * m + 1 : ℚ) < 10 ^ 28 * 2 := lt_of_mul_lt_mul_right bound unit.le
    have whole : 2 * m + 1 < 10 ^ 28 * 2 := by exact_mod_cast count
    exact ⟨m + 1, by omega, by rw [Nat.even_iff]; omega, by omega, by omega⟩

/-- No other short number is nearest: its neighbours end in odd digits at a tie. -/
theorem unique (rounds : RoundsAt a q m) (nearest : Nearest q s) : s = m * 10 ^ (a - 27) := by
  obtain ⟨n, nearer, equal⟩ := rounds.onGrid nearest.short
  have least := nearest.closest _ rounds.short
  rw [unit_eq] at least
  have level := le_antisymm nearer (least.trans (rounds.closest n).1)
  obtain rfl := equal level
  have same := le_antisymm least (rounds.closest n).1
  rcases (rounds.closest n).2 same with rfl | ⟨even, tied⟩
  · rw [unit_eq, Int.cast_natCast]
  · obtain ⟨k, rfl, odd, long, digits⟩ := rounds.neighbour_bounds even tied
    have other := nearest.even _ rounds.short
    rw [unit_eq] at other ⊢
    refine ((other same.symm).resolve_right fun ends => odd ?_).symm
    rw [Int.cast_natCast, ← unit_eq] at ends
    exact ends.even long digits

end RoundsAt

section Fractions

variable {n d : ℕ} {a : ℤ} {q : ℚ}

theorem roundHalfEven_spec (positive : 0 < d) :
    2 * (roundHalfEven n d * d) ≤ 2 * n + d ∧ 2 * n ≤ 2 * (roundHalfEven n d * d) + d ∧
      (2 * (roundHalfEven n d * d) = 2 * n + d ∨ 2 * n = 2 * (roundHalfEven n d * d) + d →
        Even (roundHalfEven n d)) := by
  have whole := Nat.div_add_mod' n d
  have rest := Nat.mod_lt n positive
  unfold roundHalfEven
  generalize n / d = quotient at *
  generalize n % d = remainder at *
  dsimp only
  split
  next lower =>
    refine ⟨by omega, by omega, fun tied => Nat.even_iff.2 ?_⟩
    omega
  next upper =>
    rw [Nat.add_mul, one_mul]
    refine ⟨by omega, by omega, fun tied => Nat.even_iff.2 ?_⟩
    omega

theorem roundsAt_fraction (positive : 0 < d) (value : q = n / d * (2 * halfUnit a))
    (least : 10 ^ a ≤ q) (most : q < 10 ^ (a + 1)) : RoundsAt a q (roundHalfEven n d) := by
  obtain ⟨above, below, tie⟩ := roundHalfEven_spec (n := n) positive
  generalize roundHalfEven n d = m at *
  have unit := halfUnit_pos a
  have divisor : (0 : ℚ) < d := Nat.cast_pos.2 positive
  have above : (2 * (m * d) : ℚ) ≤ 2 * n + d := by exact_mod_cast above
  have below : (2 * n : ℚ) ≤ 2 * (m * d) + d := by exact_mod_cast below
  have scaled : q = 2 * n / d * halfUnit a := by rw [value]; ring
  have cancelled {c : ℚ} (equal : c * halfUnit a = 2 * n / d * halfUnit a) : c * d = 2 * n :=
    (div_eq_iff divisor.ne').1 (mul_right_cancel₀ unit.ne' equal).symm |>.symm
  refine ⟨least, most, ?_, ?_, fun tied => tie ?_⟩
  · rw [scaled]
    exact mul_le_mul_of_nonneg_right ((le_div_iff₀ divisor).2 (by linarith)) unit.le
  · rw [scaled]
    exact mul_le_mul_of_nonneg_right ((div_le_iff₀ divisor).2 (by linarith)) unit.le
  · rw [scaled] at tied
    rcases tied with tied | tied
    · left
      have equal := cancelled tied.symm
      have sum : (2 * (m * d) : ℚ) = 2 * n + d := by linarith
      exact_mod_cast sum
    · right
      have equal := cancelled tied.symm
      have sum : (2 * n : ℚ) = 2 * (m * d) + d := by linarith
      exact_mod_cast sum

theorem exists_roundsAt (positive : 0 < q) : ∃ a m, RoundsAt a q m := by
  have least : (10 : ℚ) ^ Int.log 10 q ≤ q := by
    exact_mod_cast Int.zpow_log_le_self (by decide) positive
  have most : q < (10 : ℚ) ^ (Int.log 10 q + 1) := by
    exact_mod_cast Int.lt_zpow_succ_log_self (by decide) q
  generalize Int.log 10 q = a at *
  have unit : 0 < 2 * halfUnit a := mul_pos two_pos (halfUnit_pos a)
  have counted : 0 < q / (2 * halfUnit a) := div_pos positive unit
  obtain ⟨n, numerator⟩ := Int.eq_ofNat_of_zero_le (Rat.num_pos.2 counted).le
  have value : q = n / (q / (2 * halfUnit a)).den * (2 * halfUnit a) := by
    have fraction := Rat.num_div_den (q / (2 * halfUnit a))
    rw [numerator, Int.cast_natCast] at fraction
    rw [fraction, div_mul_cancel₀ _ unit.ne']
  exact ⟨a, _, roundsAt_fraction (Rat.den_pos _) value least most⟩

theorem nearest_zero_iff {r : ℚ} : Nearest 0 r ↔ r = 0 := by
  constructor
  · intro nearest
    simpa using nearest.closest 0 short_zero
  · rintro rfl
    exact ⟨short_zero, by simp, fun s _ same => .inl (by simpa using same)⟩

theorem exists_nearest (q : ℚ) : ∃ r, ∀ s, Nearest q s ↔ s = r := by
  have nonnegative {q : ℚ} (least : 0 ≤ q) : ∃ r, ∀ s, Nearest q s ↔ s = r := by
    rcases least.eq_or_lt with rfl | positive
    · exact ⟨0, fun s => nearest_zero_iff⟩
    · obtain ⟨a, m, rounds⟩ := exists_roundsAt positive
      exact ⟨_, fun s => ⟨rounds.unique, fun same => same ▸ rounds.nearest⟩⟩
  rcases le_total 0 q with least | most
  · exact nonnegative least
  · obtain ⟨r, only⟩ := nonnegative (neg_nonneg.2 most)
    refine ⟨-r, fun s => ⟨fun nearest => ?_, ?_⟩⟩
    · rw [← (only _).1 nearest.neg, neg_neg]
    · rintro rfl
      simpa using ((only r).2 rfl).neg

theorem Nearest.eq_of_short {r : ℚ} (nearest : Nearest q r) (short : Short q) : r = q := by
  have close := nearest.closest q short
  rw [sub_self, abs_zero] at close
  exact (sub_eq_zero.1 (abs_eq_zero.1 (le_antisymm close (abs_nonneg _)))).symm

end Fractions

section Cells

variable {a n : ℤ} {q t w : ℚ} {m : ℕ}

/-- Whether a number lies strictly between two neighbours on a grid. -/
structure InCell (w : ℚ) (n : ℤ) (q : ℚ) : Prop where
  left : n * w < q
  right : q < (n + 1) * w

theorem InCell.le_iff (inside : InCell w n q) (unit : 0 < w) (k : ℤ) : k * w ≤ q ↔ k ≤ n := by
  constructor
  · intro least
    have order : (k : ℚ) < n + 1 := lt_of_mul_lt_mul_right (least.trans_lt inside.right) unit.le
    have whole : k < n + 1 := by exact_mod_cast order
    omega
  · intro order
    have whole : (k : ℚ) ≤ n := by exact_mod_cast order
    exact (mul_le_mul_of_nonneg_right whole unit.le).trans inside.left.le

theorem InCell.ne (inside : InCell w n q) (unit : 0 < w) (k : ℤ) : q ≠ k * w := by
  intro same
  have order := (inside.le_iff unit k).1 same.ge
  have whole : (k : ℚ) ≤ n := by exact_mod_cast order
  have bound := mul_le_mul_of_nonneg_right whole unit.le
  exact absurd inside.left (not_lt.2 (same ▸ bound))

/-- Numbers between the same neighbours on a grid are rounded alike, if all midpoints lie on the
grid. -/
theorem RoundsAt.of_cell (rounds : RoundsAt a q m) (unit : 0 < w) (here : InCell w n q)
    (there : InCell w n t) (fine : ∃ k : ℤ, halfUnit a = k * w) : RoundsAt a t m := by
  obtain ⟨k, half⟩ := fine
  have whole (l : ℤ) : (l : ℚ) * halfUnit a = ((l * k : ℤ) : ℚ) * w := by
    rw [half]
    push_cast
    ring
  have side (l : ℤ) : l * halfUnit a ≤ t ↔ l * halfUnit a ≤ q := by
    rw [whole, there.le_iff unit, here.le_iff unit]
  have untied (l : ℤ) : t ≠ l * halfUnit a ∧ q ≠ l * halfUnit a := by
    rw [whole]
    exact ⟨there.ne unit _, here.ne unit _⟩
  have first := side (2 * 10 ^ 27)
  have beyond := side (2 * 10 ^ 28)
  have above := side (2 * m - 1)
  have below := side (2 * m + 1)
  have untied_above := untied (2 * m - 1)
  have untied_below := untied (2 * m + 1)
  have least := first_eq a
  have most := beyond_eq a
  push_cast at first beyond above below untied_above untied_below
  refine ⟨?_, ?_, above.2 rounds.above, ?_, fun tied => ?_⟩
  · have crossed := first.2 (by linarith [rounds.least])
    linarith
  · by_contra crossed
    have reached := beyond.1 (by linarith)
    linarith [rounds.most]
  · by_contra crossed
    have reached := below.1 (not_le.1 crossed).le
    exact untied_below.2 (rounds.below.antisymm reached)
  · exact absurd tied (not_or.2 ⟨untied_above.1, untied_below.1⟩)

end Cells

end FormulaGrid.Decimal
