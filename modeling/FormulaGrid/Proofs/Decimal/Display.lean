import FormulaGrid.Proofs.Decimal.Arithmetic
import FormulaGrid.Proofs.Decimal.Numeral
import FormulaGrid.Proofs.Failure

/-! Numbers as a reader sees them. A number is shown without an exponent and without zeros at its
end, so that it is read back from its text, and only equal numbers are shown alike. -/
namespace FormulaGrid.Decimal

open FormulaGrid.Failure FormulaGrid.Text

/-- Whether a coefficient has no zeros at its end that the exponent could take; zero itself has the
exponent zero. -/
def Reduced (c : Nat) (e : ℤ) : Prop := c % 10 ≠ 0 ∨ c = 0 ∧ e = 0

/-- Whether a number has no more than 28 digits, and its first one neither too small nor too great
an exponent. -/
def Displayable (c : Nat) (e : ℤ) : Prop :=
  digitCount c ≤ 28 ∧ -999999 ≤ adjusted c e ∧ adjusted c e ≤ 999999

section Magnitudes

variable {negative negative₁ negative₂ : Bool} {c c₁ c₂ : Nat} {e e₁ e₂ : ℤ}

theorem magnitude_eq (same : (signed negative₁ c₁ : ℚ) * 10 ^ e₁ = signed negative₂ c₂ * 10 ^ e₂) :
    (c₁ : ℚ) * 10 ^ e₁ = c₂ * 10 ^ e₂ ∧ (c₁ ≠ 0 → negative₁ = negative₂) := by
  have magnitude := congrArg abs same
  rw [abs_signed_mul, abs_signed_mul] at magnitude
  refine ⟨magnitude, fun nonzero => ?_⟩
  have positive : 0 < (c₁ : ℚ) * 10 ^ e₁ :=
    mul_pos (Nat.cast_pos.2 (Nat.pos_of_ne_zero nonzero)) (ten_pow_pos e₁)
  cases negative₁ <;> cases negative₂ <;> simp [signed] at same ⊢ <;> linarith

theorem Reduced.exponent_le (reduced : c₁ % 10 ≠ 0) (same : (c₁ : ℚ) * 10 ^ e₁ = c₂ * 10 ^ e₂) :
    e₂ ≤ e₁ := by
  by_contra later
  have lower : e₁ + 1 ≤ e₂ := by omega
  have multiple : (c₁ : ℚ) = ((c₂ * 10 ^ (e₂ - (e₁ + 1)).toNat * 10 : ℕ) : ℚ) := by
    rw [scaled_eq lower, ten_pow_add, zpow_one] at same
    refine mul_right_cancel₀ (ten_pow_pos e₁).ne' (same.trans ?_)
    push_cast
    ring
  have tenfold : c₁ = c₂ * 10 ^ (e₂ - (e₁ + 1)).toNat * 10 := Nat.cast_injective multiple
  omega

theorem Reduced.unique (first : Reduced c₁ e₁) (second : Reduced c₂ e₂)
    (same : (c₁ : ℚ) * 10 ^ e₁ = c₂ * 10 ^ e₂) : c₁ = c₂ ∧ e₁ = e₂ := by
  have unit (e : ℤ) : (10 : ℚ) ^ e ≠ 0 := (ten_pow_pos e).ne'
  rcases first with first | ⟨rfl, rfl⟩
  · rcases second with second | ⟨rfl, rfl⟩
    · obtain rfl := le_antisymm (Reduced.exponent_le second same.symm)
        (Reduced.exponent_le first same)
      exact ⟨Nat.cast_injective (mul_right_cancel₀ (unit e₁) same), rfl⟩
    · have none : c₁ = 0 := by simpa [unit] using same
      omega
  · rcases second with second | ⟨rfl, rfl⟩
    · have none : c₂ = 0 := by simpa [unit] using same.symm
      omega
    · exact ⟨rfl, rfl⟩

end Magnitudes

section Normalization

variable {c count : Nat} {e : ℤ}

theorem stripZeros_reduced (positive : 0 < c) (enough : c < 10 ^ (count + 1)) :
    (stripZeros count c e).1 % 10 ≠ 0 := by
  induction count generalizing c e with
  | zero =>
    rw [stripZeros]
    omega
  | succ count ih =>
    rw [stripZeros]
    split
    next zero => exact ih (by omega) (by omega)
    next digit => exact digit

theorem Kept.normalize (negative : Bool) (kept : Kept ((signed negative c : ℚ) * 10 ^ e)) :
    ∃ c' e', normalize (.finite negative c e) = .ok (.finite negative c' e') ∧ Reduced c' e' ∧
      (c' : ℚ) * 10 ^ e' = c * 10 ^ e := by
  rcases Nat.eq_zero_or_pos c with rfl | positive
  · exact ⟨0, 0, rfl, .inr ⟨rfl, rfl⟩, by simp⟩
  obtain ⟨z, rounded, valued⟩ := (round_rounded negative kept.normal).kept kept
  obtain ⟨negative', c', e', rfl, same⟩ := rational?_eq_some_iff.1 valued
  obtain ⟨magnitude, sign⟩ := magnitude_eq same
  obtain rfl := sign positive.ne'
  have positive' : 0 < c' := by
    refine Nat.pos_of_ne_zero fun zero => ?_
    have nonzero := mul_pos (Nat.cast_pos.2 positive) (ten_pow_pos e)
    rw [magnitude, zero, Nat.cast_zero, zero_mul] at nonzero
    exact lt_irrefl 0 nonzero
  have most : adjusted c' e' ≤ maxExponent := by
    have bounded := kept.bounded
    rw [abs_signed_mul, magnitude] at bounded
    have order := ten_pow_lt_iff.1 ((adjusted_bounds positive' e').1.trans_lt bounded)
    omega
  have enough : c' < 10 ^ (min (maxExponent - e').toNat (digitCount c') + 1) := by
    refine (lt_pow_digitCount c').trans_le (Nat.pow_le_pow_right (by decide) ?_)
    unfold adjusted at most
    omega
  refine ⟨_, _, ?_, .inl (stripZeros_reduced positive' enough),
    (stripZeros_eq _ c' e').trans magnitude.symm⟩
  obtain ⟨k, rfl⟩ := Nat.exists_eq_add_of_lt positive'
  rw [Decimal.normalize, rounded]
  rfl

theorem Displayable.kept (displayable : Displayable c e) (negative : Bool) :
    Kept ((signed negative c : ℚ) * 10 ^ e) := by
  obtain ⟨short, least, most⟩ := displayable
  have digits : c < 10 ^ 28 :=
    (lt_pow_digitCount c).trans_le (Nat.pow_le_pow_right (by decide) short)
  have whole : |(signed negative c : ℤ)| < 10 ^ 28 := by
    cases negative <;> simp [signed] <;> exact_mod_cast digits
  refine ⟨⟨signed negative c, e, whole, rfl⟩, ?_, ?_⟩
  · rcases Nat.eq_zero_or_pos c with rfl | positive
    · left
      simp [signed]
    · right
      rw [abs_signed_mul]
      exact (ten_pow_le_iff.2 least).trans (adjusted_bounds positive e).1
  · rw [abs_signed_mul]
    rcases Nat.eq_zero_or_pos c with rfl | positive
    · simpa using ten_pow_pos _
    · refine (adjusted_bounds positive e).2.trans_le (ten_pow_le_iff.2 ?_)
      exact Int.add_le_add_right most 1

end Normalization

section Texts

variable {negative : Bool} {c : Nat} {e : ℤ}

theorem toList_toPlain (negative : Bool) (c : Nat) (e : ℤ) :
    (toPlain (.finite negative c e)).toList = (if negative then ['-'] else []) ++
      if 0 ≤ e then Nat.toDigits 10 c ++ List.replicate e.toNat '0'
      else pointed (Nat.toDigits 10 c) e.natAbs := by
  rw [toPlain, String.toList_ofList, ← toList_toString]
  rfl

theorem exists_parts (negative : Bool) (c : Nat) (e : ℤ) :
    ∃ whole fraction padding,
      (toPlain (.finite negative c e)).toList = (if negative then ['-'] else []) ++
        (whole ++ if fraction = [] then [] else '.' :: fraction) ∧
      whole ++ fraction =
        List.replicate padding '0' ++ (Nat.toDigits 10 c ++ List.replicate e.toNat '0') ∧
      fraction.length = (-e).toNat ∧ whole ≠ [] := by
  rw [toList_toPlain]
  by_cases up : 0 ≤ e
  · rw [if_pos up]
    exact ⟨_, [], 0, by rw [if_pos rfl, List.append_nil], by simp,
      (Int.toNat_of_nonpos (by omega)).symm, by simp⟩
  · rw [if_neg up]
    obtain ⟨whole, fraction, padding, written, joined, counted, nonempty, -⟩ :=
      pointed_eq (Nat.toDigits 10 c) (show 0 < e.natAbs by omega)
    have fractional : fraction ≠ [] := List.ne_nil_of_length_pos (by omega)
    refine ⟨whole, fraction, padding, by rw [written, if_neg fractional], ?_, by omega, nonempty⟩
    rw [joined, show e.toNat = 0 by omega, List.replicate_zero, List.append_nil]

theorem ascii_padded (padding zeros c : Nat) :
    ∀ d ∈ List.replicate padding '0' ++ (Nat.toDigits 10 c ++ List.replicate zeros '0'),
      isAsciiDigit d :=
  List.forall_mem_append.2
    ⟨zeros_all padding, List.forall_mem_append.2 ⟨toDigits_all c, zeros_all zeros⟩⟩

/-- The plain text of a number is read as the number, written with the exponent zero unless it has
digits behind the point. -/
theorem toNumber_toPlain (negative : Bool) (c : Nat) (e : ℤ) :
    (Value.text (toPlain (.finite negative c e))).toNumber =
      .finite negative (c * 10 ^ e.toNat) (min e 0) := by
  obtain ⟨whole, fraction, padding, written, joined, counted, nonempty⟩ := exists_parts negative c e
  have digits : ∀ d ∈ whole ++ fraction, isAsciiDigit d := joined ▸ ascii_padded padding e.toNat c
  have signed : SignChars (if negative then ['-'] else []) negative := by
    cases negative
    · exact .bare
    · exact .minus
  have numeric : Numeric (toPlain (.finite negative c e)).toList negative
      (whole.map fun c => c.toNat - '0'.toNat) (fraction.map fun c => c.toNat - '0'.toNat) :=
    ⟨[], _, _, [], by rw [written, List.nil_append, List.append_nil], by simp, by simp, signed,
      pointed_ascii nonempty digits⟩
  have read := ofNumericText?_eq_some_iff.2 ⟨_, _, _, numeric, rfl⟩
  have value : Nat.ofDigitChars 10 (whole ++ fraction) 0 = c * 10 ^ e.toNat := by
    rw [joined, Nat.ofDigitChars_append, Nat.ofDigitChars_append, Nat.ofDigitChars_replicate_zero,
      Nat.ofDigitChars_replicate_zero, Nat.mul_zero, Nat.ofDigitChars_ten_toDigits, Nat.mul_comm]
  rw [Value.toNumber, read, Option.getD_some, ← List.map_append, valueOfDigits_ascii, value,
    List.length_map, counted, show -((-e).toNat : ℤ) = min e 0 by omega]

theorem ten_pow_toPlain (c : Nat) (e : ℤ) :
    ((c * 10 ^ e.toNat : ℕ) : ℚ) * 10 ^ (min e 0) = c * 10 ^ e := by
  rw [scaled_eq (min_le_left e 0), show (e - min e 0).toNat = e.toNat by omega]
  push_cast
  rfl

theorem mem_toPlain {d : Char} (member : d ∈ (toPlain (.finite negative c e)).toList) :
    isAsciiDigit d ∨ d = '-' ∨ d = '.' := by
  obtain ⟨whole, fraction, padding, written, joined, -, -⟩ := exists_parts negative c e
  have digits : ∀ d ∈ whole ++ fraction, isAsciiDigit d := joined ▸ ascii_padded padding e.toNat c
  obtain ⟨before, behind⟩ := List.forall_mem_append.1 digits
  have fractional (member : d ∈ if fraction = [] then [] else '.' :: fraction) :
      isAsciiDigit d ∨ d = '-' ∨ d = '.' := by
    split at member
    · cases member
    · rcases List.mem_cons.1 member with point | digit
      · exact .inr (.inr point)
      · exact .inl (behind d digit)
  rw [written] at member
  rcases List.mem_append.1 member with sign | unsigned
  · split at sign
    · exact .inr (.inl (List.mem_singleton.1 sign))
    · cases sign
  · rcases List.mem_append.1 unsigned with digit | rest
    · exact .inl (before d digit)
    · exact fractional rest

theorem getLast?_toDigits (c : Nat) : (Nat.toDigits 10 c).getLast? = some (c % 10).digitChar := by
  rcases Nat.lt_or_ge c 10 with single | more
  · rw [Nat.toDigits_of_lt_base single, Nat.mod_eq_of_lt single]
    rfl
  · have small := Nat.mod_lt c (show 10 > 0 by decide)
    have split := Nat.toDigits_append_toDigits (show 1 < 10 by decide)
      (Nat.div_pos more (by decide)) small
    rw [Nat.div_add_mod] at split
    rw [← split, Nat.toDigits_of_lt_base small, List.getLast?_concat]

theorem Reduced.ends (reduced : Reduced c e)
    (point : '.' ∈ (toPlain (.finite negative c e)).toList) :
    ∃ d, (toPlain (.finite negative c e)).toList.getLast? = some d ∧ isAsciiDigit d ∧ d ≠ '0' := by
  obtain ⟨whole, fraction, padding, written, joined, counted, -⟩ := exists_parts negative c e
  have digits : ∀ d ∈ whole ++ fraction, isAsciiDigit d := joined ▸ ascii_padded padding e.toNat c
  have fractional : fraction ≠ [] := by
    rintro rfl
    rw [written, if_pos rfl, List.append_nil] at point
    rcases List.mem_append.1 point with sign | digit
    · cases negative <;> simp at sign
    · cases digits '.' (List.mem_append_left _ digit)
  have below : e < 0 := by
    have behind := List.length_pos_of_ne_nil fractional
    omega
  have last : (whole ++ fraction).getLast? = some (c % 10).digitChar := by
    rw [joined, show e.toNat = 0 by omega, List.replicate_zero, List.append_nil,
      List.getLast?_append_of_ne_nil _ Nat.toDigits_ne_nil, getLast?_toDigits]
  have nonzero : c % 10 ≠ 0 := reduced.resolve_right fun zero => by omega
  refine ⟨(c % 10).digitChar, ?_, digits _ (List.mem_of_getLast? last), ?_⟩
  · rw [List.getLast?_append_of_ne_nil _ fractional] at last
    rw [written, if_neg fractional, List.append_cons, ← List.append_assoc,
      List.getLast?_append_of_ne_nil _ fractional, last]
  · have digit : ∀ n < 10, n ≠ 0 → n.digitChar ≠ '0' := by decide
    exact digit _ (Nat.mod_lt c (by decide)) nonzero

end Texts

end FormulaGrid.Decimal

namespace FormulaGrid.Value

open FormulaGrid.Decimal FormulaGrid.Failure FormulaGrid.Text

section Displays

variable {c c₁ c₂ : Nat} {e e₁ e₂ : ℤ}

/-- The text of a number, which is read as a number of the same sign and value. -/
theorem exists_display (negative : Bool) (kept : Kept ((signed negative c : ℚ) * 10 ^ e)) :
    ∃ c' e', (Value.number (.finite negative c e)).display =
        .ok (toPlain (.finite negative c' e')) ∧
      Reduced c' e' ∧ (c' : ℚ) * 10 ^ e' = c * 10 ^ e := by
  obtain ⟨c', e', normalized, reduced, same⟩ := kept.normalize negative
  refine ⟨c', e', ?_, reduced, same⟩
  rw [display, normalized]
  rfl

theorem display_congr {negative : Bool} (kept : Kept ((signed negative c₁ : ℚ) * 10 ^ e₁))
    (same : (c₁ : ℚ) * 10 ^ e₁ = c₂ * 10 ^ e₂) :
    (Value.number (.finite negative c₁ e₁)).display =
      (Value.number (.finite negative c₂ e₂)).display := by
  have kept' : Kept ((signed negative c₂ : ℚ) * 10 ^ e₂) := by
    rwa [signed_eq, mul_assoc, same, ← mul_assoc, ← signed_eq] at kept
  obtain ⟨c, e, shown, reduced, value⟩ := exists_display negative kept
  obtain ⟨c', e', shown', reduced', value'⟩ := exists_display negative kept'
  obtain ⟨rfl, rfl⟩ := reduced.unique reduced' (value.trans (same.trans value'.symm))
  rw [shown, shown']

end Displays

/-- A number is read back from its text, which has no exponent and no zeros at its end, and its text
is that of all numbers of its value and, if this is zero, of its sign. -/
theorem display_faithful (negative : Bool) (c : Nat) (e : ℤ) (displayable : Displayable c e) :
    ∃ text, (Value.number (.finite negative c e)).display = .ok text ∧
      (Value.text text).toNumber.rational? = some ((signed negative c : ℚ) * 10 ^ e) ∧
      (Value.number (Value.text text).toNumber).display = .ok text ∧
      (∀ d ∈ text.toList, d ≠ 'e' ∧ d ≠ 'E' ∧ d ≠ '+') ∧
      ('.' ∈ text.toList →
        ∃ d, text.toList.getLast? = some d ∧ isAsciiDigit d ∧ d ≠ '0') ∧
      ∀ negative' c' e', Displayable c' e' →
        ((Value.number (.finite negative' c' e')).display = .ok text ↔
          (signed negative' c' : ℚ) * 10 ^ e' = signed negative c * 10 ^ e ∧
            (c = 0 → negative' = negative)) := by
  have kept := displayable.kept negative
  obtain ⟨c₁, e₁, shown, reduced, value⟩ := exists_display negative kept
  have read := toNumber_toPlain negative c₁ e₁
  have value₁ := (ten_pow_toPlain c₁ e₁).trans value
  refine ⟨_, shown, ?_, ?_, fun d member => ?_, reduced.ends, fun negative' c' e' within => ?_⟩
  · rw [read, rational?, signed_eq, mul_assoc, value₁, ← mul_assoc, ← signed_eq]
  · rw [read, ← display_congr kept value₁.symm, shown]
  · rcases mem_toPlain member with digit | rfl | rfl
    · refine ⟨?_, ?_, ?_⟩ <;>
      · rintro rfl
        cases digit
    · decide
    · decide
  · constructor
    · intro alike
      obtain ⟨c₂, e₂, shown', -, value'⟩ := exists_display negative' (within.kept negative')
      have texts := Except.ok.inj (shown'.symm.trans alike)
      have read' := toNumber_toPlain negative' c₂ e₂
      rw [texts, read] at read'
      obtain ⟨sign, coefficient, exponent⟩ := Decimal.finite.inj read'
      subst sign
      have same := (ten_pow_toPlain c₂ e₂).trans value'
      rw [← coefficient, ← exponent, value₁] at same
      exact ⟨by rw [signed_eq, signed_eq, mul_assoc, mul_assoc, same], fun _ => rfl⟩
    · rintro ⟨same, zero⟩
      obtain ⟨magnitude, sign⟩ := magnitude_eq same.symm
      obtain rfl : negative' = negative := by
        by_cases none : c = 0
        · exact zero none
        · exact (sign none).symm
      rw [← display_congr kept magnitude, shown]

theorem display_faithful_trailing :
    (Value.number (.finite true 1200 (-3))).display = .ok "-1.2" ∧
      (Value.text "-1.2").toNumber.rational? = some (-6 / 5) ∧
      (Value.number (.finite true 12 (-1))).display = .ok "-1.2" := by
  have first : Displayable 1200 (-3) := by
    unfold Displayable
    decide +kernel
  have second : Displayable 12 (-1) := by
    unfold Displayable
    decide +kernel
  have shown : (Value.number (.finite true 1200 (-3))).display = .ok "-1.2" := by
    decide +kernel
  obtain ⟨text, displayed, read, -, -, -, alike⟩ := display_faithful true 1200 (-3) first
  obtain rfl : "-1.2" = text := Except.ok.inj (shown.symm.trans displayed)
  refine ⟨displayed, ?_, (alike true 12 (-1) second).2 ⟨?_, by decide⟩⟩
  · rw [read]
    norm_num [signed]
  · norm_num [signed]

end FormulaGrid.Value
