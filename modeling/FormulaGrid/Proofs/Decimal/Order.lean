import FormulaGrid.Function
import FormulaGrid.Proofs.Decimal.Arithmetic
import FormulaGrid.Proofs.Failure

/-! The order of decimal numbers is that of the rational numbers they stand for, however they are
written. -/
namespace FormulaGrid.Decimal

open FormulaGrid.Failure

section Magnitudes

variable {c₁ c₂ : Nat} {e₁ e₂ : ℤ}

theorem cmp_cast (m n : ℕ) : cmp (m : ℚ) n = compare m n :=
  (Nat.strictMono_cast.cmp_map_eq m n).trans (cmp_eq_compare m n)

theorem lt_of_adjusted_lt (nonzero₁ : 0 < c₁) (nonzero₂ : 0 < c₂)
    (lower : adjusted c₁ e₁ < adjusted c₂ e₂) : (c₁ : ℚ) * 10 ^ e₁ < c₂ * 10 ^ e₂ :=
  calc (c₁ : ℚ) * 10 ^ e₁ < 10 ^ (adjusted c₁ e₁ + 1) := (adjusted_bounds nonzero₁ e₁).2
    _ ≤ 10 ^ adjusted c₂ e₂ := ten_pow_le_iff.2 lower
    _ ≤ c₂ * 10 ^ e₂ := (adjusted_bounds nonzero₂ e₂).1

theorem compareMagnitude_eq :
    compareMagnitude c₁ e₁ c₂ e₂ = cmp ((c₁ : ℚ) * 10 ^ e₁) (c₂ * 10 ^ e₂) := by
  by_cases zero : c₁ = 0 ∨ c₂ = 0
  · rw [compareMagnitude, if_pos zero]
    rcases zero with rfl | rfl
    · rw [← cmp_cast, Nat.cast_zero, zero_mul, ← cmp_mul_pos_right (ten_pow_pos e₂), zero_mul]
    · rw [← cmp_cast, Nat.cast_zero, zero_mul, ← cmp_mul_pos_right (ten_pow_pos e₁), zero_mul]
  · rw [compareMagnitude, if_neg zero]
    obtain ⟨first, second⟩ := not_or.1 zero
    have positive₁ := Nat.pos_of_ne_zero first
    have positive₂ := Nat.pos_of_ne_zero second
    dsimp only
    rcases lt_trichotomy (adjusted c₁ e₁) (adjusted c₂ e₂) with lower | same | higher
    · rw [compare_lt_iff_lt.2 lower, (lt_of_adjusted_lt positive₁ positive₂ lower).cmp_eq_lt]
      rfl
    · rw [compare_eq_iff_eq.2 same, ← coefficientAt_eq (min_le_left e₁ e₂),
        ← coefficientAt_eq (min_le_right e₁ e₂), cmp_mul_pos_right (ten_pow_pos _), cmp_cast]
      rfl
    · rw [compare_gt_iff_gt.2 higher, (lt_of_adjusted_lt positive₂ positive₁ higher).cmp_eq_gt]
      rfl

theorem compareFinite_eq (negative₁ negative₂ : Bool) :
    compareFinite negative₁ c₁ e₁ negative₂ c₂ e₂ =
      cmp ((signed negative₁ c₁ : ℚ) * 10 ^ e₁) ((signed negative₂ c₂ : ℚ) * 10 ^ e₂) := by
  have magnitude₁ : 0 ≤ (c₁ : ℚ) * 10 ^ e₁ := mul_nonneg c₁.cast_nonneg (ten_pow_pos e₁).le
  have magnitude₂ : 0 ≤ (c₂ : ℚ) * 10 ^ e₂ := mul_nonneg c₂.cast_nonneg (ten_pow_pos e₂).le
  have plus (c : ℕ) : (signed false c : ℚ) = c := Int.cast_natCast c
  have minus (c : ℕ) : (signed true c : ℚ) = -c := by rw [signed_eq, if_pos rfl, neg_one_mul]
  by_cases zero : c₁ = 0 ∧ c₂ = 0
  · obtain ⟨rfl, rfl⟩ := zero
    have vanishes (negative : Bool) (e : ℤ) : (signed negative 0 : ℚ) * 10 ^ e = 0 := by
      rw [signed_eq, Nat.cast_zero, mul_zero, zero_mul]
    rw [vanishes, vanishes, cmp_self_eq_eq]
    rfl
  · unfold compareFinite
    rw [if_neg zero]
    have apart : 0 < (c₁ : ℚ) * 10 ^ e₁ + c₂ * 10 ^ e₂ := by
      rcases Nat.eq_zero_or_pos c₁ with rfl | positive
      · have other : 0 < c₂ := Nat.pos_of_ne_zero fun other => zero ⟨rfl, other⟩
        exact add_pos_of_nonneg_of_pos magnitude₁ (mul_pos (Nat.cast_pos.2 other) (ten_pow_pos e₂))
      · exact add_pos_of_pos_of_nonneg (mul_pos (Nat.cast_pos.2 positive) (ten_pow_pos e₁))
          magnitude₂
    cases negative₁ <;> cases negative₂
    · rw [plus, plus]
      exact compareMagnitude_eq
    · rw [plus, minus, neg_mul]
      exact (LT.lt.cmp_eq_gt (by linarith)).symm
    · rw [plus, minus, neg_mul]
      exact (LT.lt.cmp_eq_lt (by linarith)).symm
    · have negation : StrictAnti fun r : ℚ => -r := fun _ _ less => neg_lt_neg less
      rw [minus, minus, neg_mul, neg_mul]
      exact compareMagnitude_eq.trans (negation.cmp_map_eq _ _).symm

end Magnitudes

section Orders

variable {x y : Decimal} {p q : ℚ}

theorem order?_eq (first : x.rational? = some p) (second : y.rational? = some q) :
    order? x y = some (cmp p q) := by
  obtain ⟨negative₁, c₁, e₁, rfl, rfl⟩ := rational?_eq_some_iff.1 first
  obtain ⟨negative₂, c₂, e₂, rfl, rfl⟩ := rational?_eq_some_iff.1 second
  exact congrArg some (compareFinite_eq negative₁ negative₂)

theorem equal_eq (first : x.rational? = some p) (second : y.rational? = some q) :
    x.equal y = .ok (decide (p = q)) := by
  have signaling {z : Decimal} {r : ℚ} (value : z.rational? = some r) : z.isSignaling = false := by
    obtain ⟨_, _, _, rfl, _⟩ := rational?_eq_some_iff.1 value
    rfl
  have agree : (some (cmp p q) == some .eq) = decide (p = q) := by
    rw [Bool.eq_iff_iff, beq_iff_eq, Option.some_inj, cmp_eq_eq_iff, decide_eq_true_iff]
  rw [equal, signaling first, signaling second, order?_eq first second]
  exact congrArg Except.ok agree

theorem less_eq (first : x.rational? = some p) (second : y.rational? = some q) :
    x.less y = .ok (decide (p < q)) := by
  have agree : (cmp p q == .lt) = decide (p < q) := by
    rw [Bool.eq_iff_iff, beq_iff_eq, cmp_eq_lt_iff, decide_eq_true_iff]
  rw [less, order?_eq first second]
  exact congrArg Except.ok agree

theorem greater_eq (first : x.rational? = some p) (second : y.rational? = some q) :
    x.greater y = .ok (decide (q < p)) := by
  have agree : (cmp p q == .gt) = decide (q < p) := by
    rw [Bool.eq_iff_iff, beq_iff_eq, cmp_eq_gt_iff, decide_eq_true_iff]
  rw [greater, order?_eq first second]
  exact congrArg Except.ok agree

end Orders

section Extremes

variable {best : Decimal} {numbers : List Decimal} {p : ℚ} {values : List ℚ}

theorem select_exact {precedes : Decimal → Decimal → Except Signal Bool} {extreme : ℚ → ℚ → ℚ}
    (agree : ∀ {x y : Decimal} {p q : ℚ}, x.rational? = some p → y.rational? = some q →
      ∃ replaces, precedes y x = .ok replaces ∧ extreme p q = if replaces then q else p)
    (first : best.rational? = some p)
    (others : List.Forall₂ (fun x q => x.rational? = some q) numbers values) :
    ∃ x, Function.select precedes best numbers = .ok x ∧
      x.rational? = some (values.foldl extreme p) := by
  induction others generalizing best p with
  | nil => exact ⟨best, rfl, first⟩
  | @cons number value numbers values second others ih =>
    obtain ⟨replaces, preceded, extremal⟩ := agree first second
    rw [Function.select, preceded, ok_bind, List.foldl_cons, extremal]
    cases replaces with
    | false => exact ih first
    | true => exact ih second

theorem greatest_exact (first : best.rational? = some p)
    (others : List.Forall₂ (fun x q => x.rational? = some q) numbers values) :
    ∃ x, Function.greatest best numbers = .ok x ∧
      x.rational? = some (values.foldl max p) := by
  refine select_exact (fun {x y p q} first second => ?_) first others
  refine ⟨decide (p < q), greater_eq second first, ?_⟩
  by_cases less : p < q
  · simp [less, less.le]
  · simp [less, le_of_not_gt less]

theorem least_exact (first : best.rational? = some p)
    (others : List.Forall₂ (fun x q => x.rational? = some q) numbers values) :
    ∃ x, Function.least best numbers = .ok x ∧
      x.rational? = some (values.foldl min p) := by
  refine select_exact (fun {x y p q} first second => ?_) first others
  refine ⟨decide (q < p), less_eq second first, ?_⟩
  by_cases less : q < p
  · simp [less, less.le]
  · simp [less, le_of_not_gt less]

end Extremes

end FormulaGrid.Decimal
