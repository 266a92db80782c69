import FormulaGrid.Decimal.Arithmetic
import FormulaGrid.Proofs.Decimal.Rounding
import Mathlib.Data.Nat.Cast.Field
import Mathlib.Order.Compare
import Mathlib.Tactic.FieldSimp

/-! Each operation of the arithmetic rounds its exact result once, and a result that is
representable comes out as it is. Order is always that of the rational numbers. -/
namespace FormulaGrid.Decimal

section Sums

variable {negative₁ negative₂ : Bool} {c₁ c₂ : Nat} {e₁ e₂ : ℤ} {x y : Decimal} {p q : ℚ}

theorem coefficientAt_eq {least : ℤ} (lower : least ≤ e₁) :
    (coefficientAt least c₁ e₁ : ℚ) * 10 ^ least = c₁ * 10 ^ e₁ := by
  unfold coefficientAt
  split
  next zero => simp [zero]
  next =>
    rw [scaled_eq lower, Nat.cast_mul]
    congr 2
    exact Nat.cast_pow 10 _

theorem aligned_eq (negative₁ negative₂ : Bool) {least : ℤ} (lower : least ≤ e₁) (c₁ c : Nat) :
    ((signed negative₁ (coefficientAt least c₁ e₁) + signed negative₂ c : ℤ) : ℚ) * 10 ^ least =
      (signed negative₁ c₁ : ℚ) * 10 ^ e₁ + (signed negative₂ c : ℚ) * 10 ^ least := by
  rw [Int.cast_add, add_mul, signed_eq negative₁, signed_eq negative₁, mul_assoc,
    coefficientAt_eq lower, mul_assoc]

theorem natAbs_mul_ten_pow (n e : ℤ) : ((n.natAbs : ℕ) : ℚ) * 10 ^ e = |(n : ℚ) * 10 ^ e| := by
  rw [Nat.cast_natAbs, Int.cast_abs, abs_mul, abs_of_pos (ten_pow_pos e)]

/-- A small summand takes away one digit of a great one at most. -/
theorem ten_pow_le_of_sum {k l : ℤ} (large : (10 : ℚ) ^ k ≤ |p|) (small : |q| < 10 ^ l)
    (below : l ≤ k - 1) : (10 : ℚ) ^ (k - 1) ≤ |p + q| := by
  have tenfold : (10 : ℚ) ^ k = 10 * 10 ^ (k - 1) := by
    rw [← zpow_one_add₀ ten_ne_zero]
    congr 1
    omega
  have less : (10 : ℚ) ^ l ≤ 10 ^ (k - 1) := ten_pow_le_iff.2 below
  have triangle := abs_sub_abs_le_abs_sub p (-q)
  rw [abs_neg, sub_neg_eq_add] at triangle
  have unit := ten_pow_pos (k - 1)
  linarith

/-- A multiple of a grid and a summand that is smaller than its unit lie in a cell, which only the
sign of the summand decides. -/
theorem inCell_of_small {w : ℚ} {n : ℤ} (onGrid : p = n * w) (small : |q| < w) :
    (0 < q → InCell w n (p + q)) ∧ (q < 0 → InCell w (n - 1) (p + q)) := by
  obtain ⟨lower, upper⟩ := abs_lt.1 small
  refine ⟨fun positive => ⟨?_, ?_⟩, fun negative => ⟨?_, ?_⟩⟩ <;> rw [onGrid] <;> push_cast <;>
    linarith

theorem exists_cell {w s t : ℚ} {n : ℤ} (onGrid : p = n * w) (small : |s| < w) (small' : |t| < w)
    (alike : 0 < s ∧ 0 < t ∨ s < 0 ∧ t < 0) : ∃ k, InCell w k (p + s) ∧ InCell w k (p + t) := by
  rcases alike with ⟨first, second⟩ | ⟨first, second⟩
  · exact ⟨n, (inCell_of_small onGrid small).1 first, (inCell_of_small onGrid small').1 second⟩
  · exact ⟨n - 1, (inCell_of_small onGrid small).2 first, (inCell_of_small onGrid small').2 second⟩

theorem abs_signed_mul (negative : Bool) (c : Nat) (e : ℤ) :
    |(signed negative c : ℚ) * 10 ^ e| = c * 10 ^ e := by
  rw [abs_mul, abs_signed, abs_of_pos (ten_pow_pos e)]

theorem signed_alike (negative : Bool) (positive₁ : 0 < c₁) (positive₂ : 0 < c₂) (e₁ e₂ : ℤ) :
    0 < (signed negative c₁ : ℚ) * 10 ^ e₁ ∧ 0 < (signed negative c₂ : ℚ) * 10 ^ e₂ ∨
      (signed negative c₁ : ℚ) * 10 ^ e₁ < 0 ∧ (signed negative c₂ : ℚ) * 10 ^ e₂ < 0 := by
  have first : 0 < (c₁ : ℚ) * 10 ^ e₁ := mul_pos (Nat.cast_pos.2 positive₁) (ten_pow_pos e₁)
  have second : 0 < (c₂ : ℚ) * 10 ^ e₂ := mul_pos (Nat.cast_pos.2 positive₂) (ten_pow_pos e₂)
  cases negative
  · left
    simpa [signed] using And.intro first second
  · right
    simpa [signed] using And.intro first second

theorem decisiveExponent_lt (c : Nat) (e : ℤ) : decisiveExponent c e < e := by
  unfold decisiveExponent
  omega

/-- One digit beside the decisive ones leaves the first digit of a sum so far up that all midpoints
lie above this digit. -/
theorem le_adjusted_beside (negative₁ negative₂ : Bool) (greater : 0 < c₁) (e₁ : ℤ) :
    decisiveExponent c₁ e₁ + 28 ≤ adjusted
      (signed negative₁ (coefficientAt (decisiveExponent c₁ e₁) c₁ e₁) + signed negative₂ 1).natAbs
      (decisiveExponent c₁ e₁) := by
  have last := decisiveExponent_lt c₁ e₁
  have places : decisiveExponent c₁ e₁ + 29 ≤ adjusted c₁ e₁ := by
    unfold decisiveExponent precision adjusted
    omega
  have aligned := aligned_eq negative₁ negative₂ last.le c₁ 1
  generalize decisiveExponent c₁ e₁ = least at *
  generalize signed negative₁ (coefficientAt least c₁ e₁) + signed negative₂ 1 = sum at *
  have large : (10 : ℚ) ^ (adjusted c₁ e₁ - 1) ≤ |(sum : ℚ) * 10 ^ least| := by
    rw [aligned]
    refine ten_pow_le_of_sum (l := least + 1) ?_ ?_ (by omega) <;> rw [abs_signed_mul]
    · exact (adjusted_bounds greater e₁).1
    · rw [Nat.cast_one, one_mul]
      exact ten_pow_lt_iff.2 (by omega)
  have nonzero : 0 < sum.natAbs := by
    refine Int.natAbs_pos.2 fun zero => ?_
    rw [zero, Int.cast_zero, zero_mul, abs_zero] at large
    exact absurd large (not_le.2 (ten_pow_pos _))
  rw [← natAbs_mul_ten_pow] at large
  have order := le_adjusted large (adjusted_bounds nonzero least).2
  omega

/-- Where all digits of a summand lie below the decisive ones, one digit in its place gives the same
result. -/
theorem round_beside_far (zeroSign : Bool) (greater : 0 < c₁) (lesser : 0 < c₂)
    (far : adjusted c₂ e₂ < decisiveExponent c₁ e₁)
    (normal : Normal ((signed negative₁ c₁ : ℚ) * 10 ^ e₁ + (signed negative₂ c₂ : ℚ) * 10 ^ e₂)) :
    let least := decisiveExponent c₁ e₁
    let sum := signed negative₁ (coefficientAt least c₁ e₁) + signed negative₂ 1
    Rounded (round (if sum = 0 then zeroSign else sum < 0) sum.natAbs least)
      ((signed negative₁ c₁ : ℚ) * 10 ^ e₁ + (signed negative₂ c₂ : ℚ) * 10 ^ e₂) := by
  intro least sum
  have last : least < e₁ := decisiveExponent_lt c₁ e₁
  have unit : (0 : ℚ) < 5 * 10 ^ least := mul_pos (by norm_num) (ten_pow_pos least)
  have onGrid : (signed negative₁ c₁ : ℚ) * 10 ^ e₁ =
      ((signed negative₁ c₁ * 10 ^ (e₁ - least - 1).toNat * 2 : ℤ) : ℚ) * (5 * 10 ^ least) := by
    rw [scaled_eq (show least + 1 ≤ e₁ from last), ten_pow_add]
    push_cast
    rw [show e₁ - (least + 1) = e₁ - least - 1 by omega]
    ring
  have digit : |(signed negative₂ 1 : ℚ) * 10 ^ least| < 5 * 10 ^ least := by
    rw [abs_signed_mul, Nat.cast_one]
    linarith
  have tiny : |(signed negative₂ c₂ : ℚ) * 10 ^ e₂| < 5 * 10 ^ least := by
    rw [abs_signed_mul]
    have below := (adjusted_bounds lesser e₂).2.trans_le (ten_pow_le_iff.2 far)
    linarith
  obtain ⟨k, here, there⟩ := exists_cell onGrid digit tiny
    (signed_alike negative₂ Nat.one_pos lesser least e₂)
  rw [← aligned_eq negative₁ negative₂ last.le] at here
  refine round_signed_of_cell zeroSign unit here there
    ⟨10 ^ (adjusted sum.natAbs least - 28 - least).toNat, ?_⟩ normal
  rw [halfUnit_eq (le_adjusted_beside negative₁ negative₂ greater e₁)]
  push_cast
  rfl

theorem addAligned_rounded (order : e₂ ≤ e₁)
    (normal : Normal ((signed negative₁ c₁ : ℚ) * 10 ^ e₁ + (signed negative₂ c₂ : ℚ) * 10 ^ e₂)) :
    Rounded (addAligned negative₁ c₁ e₁ negative₂ c₂ e₂)
      ((signed negative₁ c₁ : ℚ) * 10 ^ e₁ + (signed negative₂ c₂ : ℚ) * 10 ^ e₂) := by
  have exact {c : Nat} {least : ℤ} (lower : least ≤ e₁)
      (same : (signed negative₂ c : ℚ) * 10 ^ least = (signed negative₂ c₂ : ℚ) * 10 ^ e₂) :
      Rounded (round (if signed negative₁ (coefficientAt least c₁ e₁) + signed negative₂ c = 0
          then negative₁ && negative₂
          else signed negative₁ (coefficientAt least c₁ e₁) + signed negative₂ c < 0)
        (signed negative₁ (coefficientAt least c₁ e₁) + signed negative₂ c).natAbs least)
        ((signed negative₁ c₁ : ℚ) * 10 ^ e₁ + (signed negative₂ c₂ : ℚ) * 10 ^ e₂) := by
    rw [← same, ← aligned_eq negative₁ negative₂ lower] at normal ⊢
    exact round_signed_rounded (negative₁ && negative₂) normal
  unfold addAligned beside
  dsimp only
  split
  next far =>
    rcases Nat.eq_zero_or_pos c₂ with rfl | lesser
    · exact exact (decisiveExponent_lt c₁ e₁).le (by simp [signed])
    · rw [if_neg lesser.ne']
      exact round_beside_far _ (Nat.pos_of_ne_zero far.1) lesser far.2 normal
  next => exact exact order rfl

theorem addNumbers_rounded (first : x.rational? = some p) (second : y.rational? = some q)
    (normal : Normal (p + q)) : Rounded (addNumbers x y) (p + q) := by
  obtain ⟨negative₁, c₁, e₁, rfl, rfl⟩ := rational?_eq_some_iff.1 first
  obtain ⟨negative₂, c₂, e₂, rfl, rfl⟩ := rational?_eq_some_iff.1 second
  unfold addNumbers addFinite
  dsimp only
  split
  next order => exact addAligned_rounded order normal
  next order =>
    rw [add_comm] at normal ⊢
    exact addAligned_rounded (by omega) normal

theorem nanResult?_eq_none (first : x.rational? = some p) (second : y.rational? = some q) :
    nanResult? x y = none := by
  obtain ⟨_, _, _, rfl, _⟩ := rational?_eq_some_iff.1 first
  obtain ⟨_, _, _, rfl, _⟩ := rational?_eq_some_iff.1 second
  rfl

theorem add_rounded (first : x.rational? = some p) (second : y.rational? = some q)
    (normal : Normal (p + q)) : Rounded (x.add y) (p + q) := by
  rw [add, nanResult?_eq_none first second]
  exact addNumbers_rounded first second normal

theorem sub_rounded (first : x.rational? = some p) (second : y.rational? = some q)
    (normal : Normal (p - q)) : Rounded (x.sub y) (p - q) := by
  rw [sub_eq_add_neg] at normal ⊢
  rw [sub, nanResult?_eq_none first second]
  exact addNumbers_rounded first (rational?_negate second) normal

end Sums

section Products

variable {x y : Decimal} {p q : ℚ}

theorem signed_mul_signed (negative₁ negative₂ : Bool) (c₁ c₂ : Nat) :
    signed negative₁ c₁ * signed negative₂ c₂ = signed (negative₁ != negative₂) (c₁ * c₂) := by
  cases negative₁ <;> cases negative₂ <;> simp [signed]

theorem mul_rounded (first : x.rational? = some p) (second : y.rational? = some q)
    (normal : Normal (p * q)) : Rounded (x.mul y) (p * q) := by
  obtain ⟨negative₁, c₁, e₁, rfl, rfl⟩ := rational?_eq_some_iff.1 first
  obtain ⟨negative₂, c₂, e₂, rfl, rfl⟩ := rational?_eq_some_iff.1 second
  have product : (signed negative₁ c₁ : ℚ) * 10 ^ e₁ * ((signed negative₂ c₂ : ℚ) * 10 ^ e₂) =
      (signed (negative₁ != negative₂) (c₁ * c₂) : ℚ) * 10 ^ (e₁ + e₂) := by
    rw [← signed_mul_signed, ten_pow_add]
    push_cast
    ring
  rw [product] at normal ⊢
  exact round_rounded (negative₁ != negative₂) normal

theorem stripZeros_eq (count c : Nat) (e : ℤ) :
    ((stripZeros count c e).1 : ℚ) * 10 ^ (stripZeros count c e).2 = c * 10 ^ e := by
  induction count generalizing c e with
  | zero => rfl
  | succ count ih =>
    rw [stripZeros]
    split
    next zero =>
      obtain ⟨tens, rfl⟩ := Nat.dvd_of_mod_eq_zero zero
      rw [ih, Nat.mul_div_cancel_left _ (by decide), ten_pow_add]
      push_cast
      ring
    next => rfl

theorem le_scaled_div {c₁ c₂ : Nat} (nonzero₁ : 0 < c₁) (nonzero₂ : 0 < c₂) :
    10 ^ 28 ≤ c₁ * Nat.pow 10 (digitCount c₂ + precision + 1 - digitCount c₁) / c₂ := by
  have divisor : c₂ ≤ 10 ^ digitCount c₂ := (lt_pow_digitCount c₂).le
  have some_digits := digitCount_pos nonzero₁
  rw [Nat.le_div_iff_mul_le nonzero₂]
  calc 10 ^ 28 * c₂ ≤ 10 ^ 28 * 10 ^ digitCount c₂ := Nat.mul_le_mul_left _ divisor
    _ = 10 ^ (28 + digitCount c₂) := (Nat.pow_add ..).symm
    _ ≤ 10 ^ (digitCount c₁ - 1 + (digitCount c₂ + precision + 1 - digitCount c₁)) :=
        Nat.pow_le_pow_right (by decide) (by unfold precision; omega)
    _ = 10 ^ (digitCount c₁ - 1) * Nat.pow 10 (digitCount c₂ + precision + 1 - digitCount c₁) :=
        Nat.pow_add ..
    _ ≤ _ := Nat.mul_le_mul_right _ (pow_digitCount_le nonzero₁)

/-- One more digit stands for all that follow the integer quotient. -/
theorem round_quotient (negative : Bool) {n d : Nat} {e : ℤ} (nonzero : 0 < d)
    (long : 10 ^ 28 ≤ n / d) (rest : n % d ≠ 0) (large : 10 ^ minExponent ≤ (n : ℚ) / d * 10 ^ e) :
    Rounded (round negative (10 * (n / d) + 1) (e - 1))
      ((if negative then -1 else 1) * ((n : ℚ) / d * 10 ^ e)) := by
  have unit := ten_pow_pos e
  have divisor : (0 : ℚ) < d := Nat.cast_pos.2 nonzero
  have whole : n / d * d + n % d = n := Nat.div_add_mod' n d
  have less := Nat.mod_lt n nonzero
  generalize n / d = quotient at *
  have lower : (quotient : ℚ) < n / d := by
    rw [lt_div_iff₀ divisor]
    exact_mod_cast (show quotient * d < n by omega)
  have upper : (n : ℚ) / d < quotient + 1 := by
    rw [div_lt_iff₀ divisor]
    exact_mod_cast (show n < (quotient + 1) * d by rw [Nat.add_mul]; omega)
  have there : InCell (10 ^ e) quotient ((n : ℚ) / d * 10 ^ e) :=
    ⟨by simpa using mul_lt_mul_of_pos_right lower unit,
      by simpa using mul_lt_mul_of_pos_right upper unit⟩
  have digit : ((10 * quotient + 1 : ℕ) : ℚ) * 10 ^ (e - 1) = (quotient + 1 / 10) * 10 ^ e := by
    rw [zpow_sub_one₀ ten_ne_zero]
    push_cast
    ring
  have here : InCell (10 ^ e) quotient (((10 * quotient + 1 : ℕ) : ℚ) * 10 ^ (e - 1)) := by
    rw [digit]
    constructor
    · rw [Int.cast_natCast]
      exact mul_lt_mul_of_pos_right (by linarith) unit
    · rw [Int.cast_natCast]
      exact mul_lt_mul_of_pos_right (by linarith) unit
  refine round_of_cell negative (by omega) unit here there ?_ large
  have large : (10 : ℚ) ^ (28 + e) ≤ ((10 * quotient + 1 : ℕ) : ℚ) * 10 ^ (e - 1) := by
    have count : (10 : ℚ) ^ (28 : ℤ) ≤ quotient := by exact_mod_cast long
    rw [digit, ten_pow_add]
    exact mul_le_mul_of_nonneg_right (by linarith) unit.le
  have order := le_adjusted large (adjusted_bounds (by omega) (e - 1)).2
  refine ⟨10 ^ (adjusted (10 * quotient + 1) (e - 1) - 28 - e).toNat * 5, ?_⟩
  rw [halfUnit_eq (show e + 28 ≤ adjusted (10 * quotient + 1) (e - 1) by omega)]
  push_cast
  ring

theorem scaled_fraction (c₁ : Nat) {c₂ : Nat} (nonzero : 0 < c₂) (scale : Nat) (e : ℤ) :
    (c₁ : ℚ) / c₂ * 10 ^ e = ((c₁ * Nat.pow 10 scale : ℕ) : ℚ) / c₂ * 10 ^ (e - scale) := by
  have power : ((Nat.pow 10 scale : ℕ) : ℚ) = 10 ^ (scale : ℤ) := by
    rw [zpow_natCast]
    exact Nat.cast_pow 10 scale
  have divisor : (c₂ : ℚ) ≠ 0 := Nat.cast_ne_zero.2 nonzero.ne'
  have unit := ten_pow_pos scale
  rw [Nat.cast_mul, power, zpow_sub₀ ten_ne_zero e]
  field_simp

theorem divFinite_rounded {negative : Bool} {c₁ c₂ : Nat} {e₁ e₂ : ℤ} (nonzero : 0 < c₂)
    (normal : Normal ((if negative then -1 else 1) * ((c₁ : ℚ) / c₂ * 10 ^ (e₁ - e₂)))) :
    Rounded (divFinite negative c₁ e₁ c₂ e₂)
      ((if negative then -1 else 1) * ((c₁ : ℚ) / c₂ * 10 ^ (e₁ - e₂))) := by
  unfold divFinite
  dsimp only
  split
  next zero =>
    rw [zero, Nat.cast_zero, zero_div, zero_mul, mul_zero]
    exact round_zero _ _
  next positive =>
    have long := le_scaled_div (Nat.pos_of_ne_zero positive) nonzero
    generalize digitCount c₂ + precision + 1 - digitCount c₁ = scale at long ⊢
    rw [scaled_fraction c₁ nonzero scale] at normal ⊢
    generalize c₁ * Nat.pow 10 scale = dividend at long normal ⊢
    split
    next whole =>
      have value : (if negative then -1 else 1) *
          ((dividend : ℚ) / c₂ * 10 ^ (e₁ - e₂ - scale)) =
          (signed negative (stripZeros scale (dividend / c₂) (e₁ - e₂ - scale)).1 : ℚ) *
            10 ^ (stripZeros scale (dividend / c₂) (e₁ - e₂ - scale)).2 := by
        have divisor : (c₂ : ℚ) ≠ 0 := Nat.cast_ne_zero.2 nonzero.ne'
        rw [signed_eq, mul_assoc, stripZeros_eq, Nat.cast_div (Nat.dvd_of_mod_eq_zero whole) divisor]
      rw [value] at normal ⊢
      exact round_rounded negative normal
    next rest =>
      refine round_quotient negative nonzero long rest ?_
      have magnitude : 0 < (dividend : ℚ) / c₂ * 10 ^ (e₁ - e₂ - scale) := by
        have count : dividend ≠ 0 := by
          rintro rfl
          exact rest (Nat.zero_mod c₂)
        exact mul_pos (div_pos (Nat.cast_pos.2 (Nat.pos_of_ne_zero count)) (Nat.cast_pos.2 nonzero))
          (ten_pow_pos _)
      exact normal.large magnitude

theorem div_rounded (first : x.rational? = some p) (second : y.rational? = some q) (nonzero : q ≠ 0)
    (normal : Normal (p / q)) : Rounded (x.div y) (p / q) := by
  obtain ⟨negative₁, c₁, e₁, rfl, rfl⟩ := rational?_eq_some_iff.1 first
  obtain ⟨negative₂, c₂, e₂, rfl, rfl⟩ := rational?_eq_some_iff.1 second
  have divisor : c₂ ≠ 0 := by
    rintro rfl
    apply nonzero
    cases negative₂ <;> simp [signed]
  have quotient : (signed negative₁ c₁ : ℚ) * 10 ^ e₁ / ((signed negative₂ c₂ : ℚ) * 10 ^ e₂) =
      (if negative₁ != negative₂ then -1 else 1) * ((c₁ : ℚ) / c₂ * 10 ^ (e₁ - e₂)) := by
    rw [signed_eq, signed_eq, zpow_sub₀ ten_ne_zero]
    cases negative₁ <;> cases negative₂ <;> simp <;> ring
  rw [quotient] at normal ⊢
  change Rounded (if c₂ = 0 then _ else _) _
  rw [if_neg divisor]
  exact divFinite_rounded (Nat.pos_of_ne_zero divisor) normal

end Products

/-- Whether rounding leaves a number as it is: it has few enough digits, and its first digit is within
the range of the exponents. -/
structure Kept (q : ℚ) : Prop where
  short : Short q
  normal : Normal q
  bounded : |q| < 10 ^ (maxExponent + 1)

section Exactness

variable {result : Except Signal Decimal} {x y : Decimal} {p q : ℚ}

theorem Representable.normal (fits : Representable q) : Normal q :=
  fits.imp_right fun rest => rest.2.1

theorem Representable.kept (fits : Representable q) : Kept q := by
  refine ⟨?_, fits.normal, ?_⟩
  · rcases fits with rfl | ⟨short, _⟩
    · exact short_zero
    · exact short
  · rcases fits with rfl | ⟨_, _, most⟩
    · simpa using ten_pow_pos _
    · exact most.trans_lt (ten_pow_lt_iff.2 (by decide))

theorem Rounded.kept (rounded : Rounded result q) (kept : Kept q) :
    ∃ z, result = .ok z ∧ z.rational? = some q := by
  obtain ⟨r, nearest, delivers⟩ := rounded
  obtain rfl := nearest.eq_of_short kept.short
  obtain ⟨negative, c, e, delivered, _, value⟩ := delivers.fits kept.bounded
  exact ⟨_, delivered, congrArg some value⟩

theorem Rounded.exact (rounded : Rounded result q) (fits : Representable q) :
    ∃ z, result = .ok z ∧ z.rational? = some q :=
  rounded.kept fits.kept

theorem add_exact (first : x.rational? = some p) (second : y.rational? = some q)
    (fits : Representable (p + q)) : ∃ z, x.add y = .ok z ∧ z.rational? = some (p + q) :=
  (add_rounded first second fits.normal).exact fits

theorem sub_exact (first : x.rational? = some p) (second : y.rational? = some q)
    (fits : Representable (p - q)) : ∃ z, x.sub y = .ok z ∧ z.rational? = some (p - q) :=
  (sub_rounded first second fits.normal).exact fits

theorem mul_exact (first : x.rational? = some p) (second : y.rational? = some q)
    (fits : Representable (p * q)) : ∃ z, x.mul y = .ok z ∧ z.rational? = some (p * q) :=
  (mul_rounded first second fits.normal).exact fits

theorem div_exact (first : x.rational? = some p) (second : y.rational? = some q) (nonzero : q ≠ 0)
    (fits : Representable (p / q)) : ∃ z, x.div y = .ok z ∧ z.rational? = some (p / q) :=
  (div_rounded first second nonzero fits.normal).exact fits

end Exactness

end FormulaGrid.Decimal
