import FormulaGrid.Proofs.Decimal.Nearest

/-! The rounding of decimal numbers finds the nearest number of 28 significant digits. Below the
least normal exponent digits are lost, and beyond the greatest exponent there is no result. -/
namespace FormulaGrid.Decimal

/-- The numbers that keep all their digits: zero, and those whose first digit is not too small. -/
def Normal (q : ℚ) : Prop := q = 0 ∨ 10 ^ minExponent ≤ |q|

/-- Whether a result is the given number, or an overflow if this number is too great. -/
structure Delivers (result : Except Signal Decimal) (r : ℚ) : Prop where
  fits : |r| < 10 ^ (maxExponent + 1) →
    ∃ negative c e, result = .ok (.finite negative c e) ∧ c < 10 ^ precision ∧
      (signed negative c : ℚ) * 10 ^ e = r
  overflows : 10 ^ (maxExponent + 1) ≤ |r| → result = .error .overflow

/-- Whether a result is that of rounding the exact number `q` once. -/
def Rounded (result : Except Signal Decimal) (q : ℚ) : Prop :=
  ∃ r, Nearest q r ∧ Delivers result r

section Signs

variable {q r t w : ℚ} {n : ℤ}

theorem abs_sign (negative : Bool) (q : ℚ) : |(if negative then -1 else 1) * q| = |q| := by
  cases negative <;> simp

theorem Normal.large {negative : Bool} (normal : Normal ((if negative then -1 else 1) * q))
    (positive : 0 < q) : 10 ^ minExponent ≤ q := by
  rw [Normal, ← abs_eq_zero, abs_sign, abs_of_pos positive] at normal
  exact normal.resolve_left positive.ne'

theorem Nearest.sign (nearest : Nearest q r) (negative : Bool) :
    Nearest ((if negative then -1 else 1) * q) ((if negative then -1 else 1) * r) := by
  cases negative
  · simpa using nearest
  · simpa using nearest.neg

theorem InCell.nonneg_iff (inside : InCell w n q) (unit : 0 < w) : 0 ≤ q ↔ 0 ≤ n := by
  simpa using inside.le_iff unit 0

theorem InCell.ne_zero (inside : InCell w n q) (unit : 0 < w) : q ≠ 0 := by
  simpa using inside.ne unit 0

theorem InCell.neg (inside : InCell w n q) : InCell w (-n - 1) (-q) := by
  refine ⟨?_, ?_⟩ <;> push_cast
  · linarith [inside.right]
  · linarith [inside.left]

end Signs

section Rounding

variable {q t w : ℚ} {c : Nat} {e n : ℤ}

theorem roundHalfEven_mul {d : Nat} (positive : 0 < d) (n : Nat) : roundHalfEven (n * d) d = n := by
  rw [roundHalfEven, Nat.mul_mod_left, Nat.mul_div_cancel _ positive]
  exact if_pos (.inl (by omega))

theorem roundedExponent_eq (normal : minExponent ≤ adjusted c e) :
    roundedExponent c e = max e (adjusted c e - 27) := by
  unfold roundedExponent leastExponent precision
  omega

/-- The coefficient and the exponent that rounding gives, as a whole number of units of the last
digit. -/
theorem roundCoefficient_spec (positive : 0 < c) (normal : minExponent ≤ adjusted c e) :
    ∃ m, RoundsAt (adjusted c e) (c * 10 ^ e) m ∧ (roundCoefficient c e).1 < 10 ^ precision ∧
      ((roundCoefficient c e).1 : ℚ) * 10 ^ (roundCoefficient c e).2 =
        m * 10 ^ (adjusted c e - 27) := by
  obtain ⟨least, most⟩ := adjusted_bounds positive e
  unfold roundCoefficient
  rw [roundedExponent_eq normal]
  dsimp only
  split
  next kept =>
    have lower : adjusted c e - 27 ≤ e := by omega
    have value := scaled_eq lower (c : ℚ)
    refine ⟨c * 10 ^ (e - (adjusted c e - 27)).toNat, ?_, ?_, ?_⟩
    · rw [← roundHalfEven_mul Nat.one_pos (c * _), mul_one]
      refine roundsAt_fraction Nat.one_pos ?_ least most
      rw [← unit_eq]
      push_cast
      rw [div_one, ← value]
    · have fewer : digitCount c ≤ precision := by
        unfold adjusted at lower
        unfold precision
        omega
      exact (lt_pow_digitCount c).trans_le (Nat.pow_le_pow_right (by decide) fewer)
    · push_cast
      exact value
  next moved =>
    have longer : e ≤ adjusted c e - 27 := by omega
    rw [max_eq_right longer, dropDigits_eq]
    have rounds : RoundsAt (adjusted c e) (c * 10 ^ e)
        (roundHalfEven c (Nat.pow 10 (adjusted c e - 27 - e).toNat)) := by
      refine roundsAt_fraction (Nat.pow_pos (by decide)) ?_ least most
      have unit := scaled_eq longer 1
      rw [one_mul, one_mul] at unit
      have power : ((Nat.pow 10 (adjusted c e - 27 - e).toNat : ℕ) : ℚ) =
          10 ^ (adjusted c e - 27 - e).toNat := Nat.cast_pow 10 _
      rw [← unit_eq, unit, power, ← mul_assoc,
        div_mul_cancel₀ _ (pow_ne_zero _ ten_ne_zero)]
    have digits := rounds.digits
    refine ⟨_, rounds, ?_⟩
    generalize roundHalfEven c _ = m at digits
    split
    next carried =>
      refine ⟨Nat.pow_lt_pow_right (by decide) (by decide), ?_⟩
      rw [carried, zpow_add_one₀ ten_ne_zero, ← mul_assoc, mul_right_comm]
      congr 1
      norm_num [precision]
    next same => exact ⟨Nat.lt_of_le_of_ne digits same, rfl⟩

theorem round_delivers (negative : Bool) (positive : 0 < c)
    (normal : minExponent ≤ adjusted c e) :
    ∃ m, RoundsAt (adjusted c e) (c * 10 ^ e) m ∧
      Delivers (round negative c e)
        ((if negative then -1 else 1) * (m * 10 ^ (adjusted c e - 27))) := by
  obtain ⟨m, rounds, short, value⟩ := roundCoefficient_spec positive normal
  refine ⟨m, rounds, ?_⟩
  unfold round
  rw [if_neg positive.ne']
  dsimp only
  generalize roundCoefficient c e = result at short value
  obtain ⟨rounded, exponent⟩ := result
  dsimp only at short value ⊢
  rw [← value]
  have kept : 0 < rounded := by
    refine Nat.pos_of_ne_zero fun none => ?_
    have some_units : (0 : ℚ) < m := Nat.cast_pos.2 (Nat.lt_of_lt_of_le (by decide) rounds.long)
    have positive_value := mul_pos some_units (ten_pow_pos (adjusted c e - 27))
    rw [← value, none] at positive_value
    simp at positive_value
  obtain ⟨least, most⟩ := adjusted_bounds kept exponent
  have magnitude : |(if negative then -1 else 1) * ((rounded : ℚ) * 10 ^ exponent)| =
      rounded * 10 ^ exponent := by
    rw [abs_sign, abs_of_nonneg (mul_nonneg rounded.cast_nonneg (ten_pow_pos _).le)]
  constructor <;> rw [magnitude]
  · intro fits
    have order := ten_pow_lt_iff.1 (least.trans_lt fits)
    rw [if_neg fun overflow => by omega]
    exact ⟨negative, rounded, exponent, rfl, short, by rw [signed_eq, mul_assoc]⟩
  · intro large
    have order := ten_pow_lt_iff.1 (large.trans_lt most)
    exact if_pos ⟨kept.ne', by omega⟩

theorem le_adjusted {k : ℤ} (large : 10 ^ k ≤ q) (most : q < 10 ^ (adjusted c e + 1)) :
    k ≤ adjusted c e := by
  have order := ten_pow_lt_iff.1 (large.trans_lt most)
  omega

theorem round_zero (negative : Bool) (e : ℤ) : Rounded (round negative 0 e) 0 := by
  refine ⟨0, nearest_zero_iff.2 rfl, ⟨fun _ => ⟨negative, 0, _, rfl, by decide, ?_⟩, ?_⟩⟩
  · cases negative <;> simp [signed]
  · intro large
    rw [abs_zero] at large
    exact absurd large (not_le.2 (ten_pow_pos _))

theorem round_rounded (negative : Bool) (normal : Normal ((signed negative c : ℚ) * 10 ^ e)) :
    Rounded (round negative c e) ((signed negative c : ℚ) * 10 ^ e) := by
  rcases Nat.eq_zero_or_pos c with rfl | positive
  · rw [signed_eq, Nat.cast_zero, mul_zero, zero_mul]
    exact round_zero negative e
  · have magnitude : 0 < (c : ℚ) * 10 ^ e := mul_pos (Nat.cast_pos.2 positive) (ten_pow_pos e)
    rw [signed_eq, mul_assoc] at normal ⊢
    obtain ⟨m, rounds, delivers⟩ := round_delivers negative positive
      (le_adjusted (normal.large magnitude) (adjusted_bounds positive e).2)
    exact ⟨_, rounds.nearest.sign negative, delivers⟩

/-- Digits below all that decide how a number is rounded may be replaced, as long as they are not
all zeros. -/
theorem round_of_cell (negative : Bool) (positive : 0 < c) (unit : 0 < w)
    (here : InCell w n (c * 10 ^ e)) (there : InCell w n t)
    (fine : ∃ k : ℤ, halfUnit (adjusted c e) = k * w) (large : 10 ^ minExponent ≤ t) :
    Rounded (round negative c e) ((if negative then -1 else 1) * t) := by
  have most : t < 10 ^ (adjusted c e + 1) := by
    obtain ⟨k, half⟩ := fine
    have onGrid : (10 : ℚ) ^ (adjusted c e + 1) = ((10 ^ 28 * (2 * k) : ℤ) : ℚ) * w := by
      rw [beyond_eq, half]
      push_cast
      ring
    have beyond := (adjusted_bounds positive e).2
    rw [onGrid, ← not_le, here.le_iff unit] at beyond
    rwa [onGrid, ← not_le, there.le_iff unit]
  obtain ⟨m, rounds, delivers⟩ := round_delivers negative positive (le_adjusted large most)
  exact ⟨_, (rounds.of_cell unit here there fine).nearest.sign negative, delivers⟩

end Rounding

section Integers

variable {t w : ℚ} {e n k : ℤ} {zeroSign : Bool}

theorem round_signed_rounded (zeroSign : Bool) (normal : Normal (n * 10 ^ e)) :
    Rounded (round (if n = 0 then zeroSign else n < 0) n.natAbs e) (n * 10 ^ e) := by
  by_cases zero : n = 0
  · rw [zero, Int.cast_zero, zero_mul]
    exact round_zero _ e
  · rw [if_neg zero]
    have rounded := round_rounded (decide (n < 0)) (c := n.natAbs) (e := e)
    rw [signed_natAbs] at rounded
    exact rounded normal

theorem round_signed_of_cell (zeroSign : Bool) (unit : 0 < w) (here : InCell w k (n * 10 ^ e))
    (there : InCell w k t) (fine : ∃ l : ℤ, halfUnit (adjusted n.natAbs e) = l * w)
    (normal : Normal t) :
    Rounded (round (if n = 0 then zeroSign else n < 0) n.natAbs e) t := by
  have apart : n ≠ 0 := by
    rintro rfl
    exact here.ne unit 0 (by simp)
  have large := normal.resolve_left (there.ne_zero unit)
  have positive : 0 < n.natAbs := Int.natAbs_pos.2 apart
  rw [if_neg apart]
  rcases lt_or_gt_of_ne apart with negative | above
  · have below : n * (10 : ℚ) ^ e < 0 :=
      mul_neg_of_neg_of_pos (Int.cast_lt_zero.2 negative) (ten_pow_pos e)
    have lower : t < 0 := not_le.1 fun upper =>
      not_le.2 below ((here.nonneg_iff unit).2 ((there.nonneg_iff unit).1 upper))
    have magnitude : ((n.natAbs : ℕ) : ℚ) = -n := by
      rw [Nat.cast_natAbs, abs_of_neg negative, Int.cast_neg]
    have turned := round_of_cell (decide (n < 0)) positive unit
      (by rw [magnitude, neg_mul]; exact here.neg) there.neg fine (abs_of_neg lower ▸ large)
    simpa [negative] using turned
  · have upper : 0 ≤ t := (there.nonneg_iff unit).2 ((here.nonneg_iff unit).1
      (mul_nonneg (Int.cast_nonneg_iff.2 above.le) (ten_pow_pos e).le))
    have magnitude : ((n.natAbs : ℕ) : ℚ) = n := by
      rw [Nat.cast_natAbs, abs_of_pos above]
    have straight := round_of_cell (decide (n < 0)) positive unit (by rwa [magnitude]) there fine
      (abs_of_nonneg upper ▸ large)
    simpa [above.not_gt] using straight

end Integers

end FormulaGrid.Decimal
