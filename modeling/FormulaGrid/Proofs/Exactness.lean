import FormulaGrid.Proofs.Agreement
import FormulaGrid.Proofs.Decimal.Order

/-! Formulas without references as arithmetic on rational numbers. As long as every step of the
exact calculation has a result that can be represented, evaluation comes to the exact value. -/
namespace FormulaGrid

open FormulaGrid.Decimal

/-- The value of two exact operands; comparisons come to one or zero. -/
def Operator.exact (operator : Operator) (a b : ℚ) : ℚ :=
  match operator with
  | .add => a + b
  | .subtract => a - b
  | .multiply => a * b
  | .divide => a / b
  | .equal => if a = b then 1 else 0
  | .less => if a < b then 1 else 0
  | .greater => if b < a then 1 else 0

/-- Whether an operator applied to exact operands has a result that can be represented. -/
def Operator.IsExact (operator : Operator) (a b : ℚ) : Prop :=
  match operator with
  | .add | .subtract | .multiply => Representable (operator.exact a b)
  | .divide => b ≠ 0 ∧ Representable (operator.exact a b)
  | .equal | .less | .greater => True

def Function.exact : Function → ℚ → List ℚ → ℚ
  | .max, first, others | .mmax, first, others => others.foldl Max.max first
  | .min, first, others | .mmin, first, others => others.foldl Min.min first

def exactCall (name : String) : List ℚ → ℚ
  | [] => 0
  | first :: others => ((Function.ofName? name).map (·.exact first others)).getD 0

namespace Formula

open FormulaGrid.Evaluation FormulaGrid.Failure FormulaGrid.Grammar FormulaGrid.Text

mutual
/-- The exact value of a formula without references. -/
def exact : Formula → ℚ
  | .number numeral _ => valueOfDigits (numeral.toList.filterMap decimalDigit?)
  | .reference _ _ => 0
  | .call name _ arguments => exactCall name (exactAmong arguments)
  | .negation _ operand => if exact operand = 0 then 1 else 0
  | .binary operator _ left right => operator.exact (exact left) (exact right)

def exactAmong : List Formula → List ℚ
  | [] => []
  | formula :: formulas => exact formula :: exactAmong formulas
end

mutual
/-- Whether no divisor is zero and the result of every step can be represented. -/
def IsExact : Formula → Prop
  | .number _ _ => True
  | .reference _ _ => True
  | .call _ _ arguments => AllExact arguments
  | .negation _ operand => IsExact operand
  | .binary operator _ left right =>
    IsExact left ∧ IsExact right ∧ operator.IsExact (exact left) (exact right)

def AllExact : List Formula → Prop
  | [] => True
  | formula :: formulas => IsExact formula ∧ AllExact formulas
end

/-- Whether a formula comes to a truth value: its outermost operation is a comparison or a
negation. -/
def isTruth : Formula → Bool
  | .negation _ _ => true
  | .binary operator _ _ _ => operator.isComparison
  | _ => false

/-- A value that is the exact one of a formula, as a truth value where it is one. -/
def Shows (formula : Formula) (v : Value) : Prop :=
  if formula.isTruth then v = .boolean (formula.exact ≠ 0)
  else ∃ x, v = .number x ∧ x.rational? = some formula.exact

section Values

variable {formula : Formula} {v : Value}

theorem exact_of_isTruth (truth : formula.isTruth) : formula.exact = 0 ∨ formula.exact = 1 := by
  have either (p : Prop) [Decidable p] : (if p then (1 : ℚ) else 0) = 0 ∨
      (if p then (1 : ℚ) else 0) = 1 := by
    split
    · exact .inr rfl
    · exact .inl rfl
  cases formula with
  | negation position operand => exact either _
  | binary operator position left right =>
    cases operator with
    | equal | less | greater => exact either _
    | add | subtract | multiply | divide => cases truth
  | number | reference | call => cases truth

theorem rational?_zero : zero.rational? = some 0 := by
  simp [Decimal.zero, Decimal.ofNat, rational?, signed]

theorem Shows.toNumber (shows : formula.Shows v) :
    v.toNumber.rational? = some formula.exact := by
  unfold Shows at shows
  split at shows
  next truth =>
    rw [shows]
    rcases exact_of_isTruth truth with none | one
    · simp [Value.toNumber, none, rational?_zero]
    · simp [Value.toNumber, one, Decimal.one, Decimal.ofNat, rational?, signed]
  next =>
    obtain ⟨x, rfl, value⟩ := shows
    exact value

theorem Shows.toBoolean (shows : formula.Shows v) :
    v.toBoolean = .ok (decide (formula.exact ≠ 0)) := by
  unfold Shows at shows
  split at shows
  next => rw [shows]; rfl
  next =>
    obtain ⟨x, rfl, value⟩ := shows
    rw [Value.toBoolean, equal_eq value rational?_zero, ok_bind]
    simp [pure, Except.pure]

theorem number_shows (number : formula.isTruth = false) {x : Decimal}
    (value : x.rational? = some formula.exact) : formula.Shows (.number x) := by
  rw [Shows, number]
  exact ⟨x, rfl, value⟩

theorem apply_exact {operator : Operator} {position : Nat} {left right : Formula} {a b : Value}
    (first : left.Shows a) (second : right.Shows b)
    (exact : operator.IsExact left.exact right.exact) :
    ∃ v, operator.apply position a b = .ok v ∧ (binary operator position left right).Shows v := by
  have p := first.toNumber
  have q := second.toNumber
  cases operator with
  | add =>
    obtain ⟨x, added, value⟩ := add_exact p q exact
    exact ⟨.number x, by simp [Operator.apply, added, Except.map], number_shows rfl value⟩
  | subtract =>
    obtain ⟨x, subtracted, value⟩ := sub_exact p q exact
    exact ⟨.number x, by simp [Operator.apply, subtracted, Except.map], number_shows rfl value⟩
  | multiply =>
    obtain ⟨x, multiplied, value⟩ := mul_exact p q exact
    exact ⟨.number x, by simp [Operator.apply, multiplied, Except.map], number_shows rfl value⟩
  | divide =>
    obtain ⟨nonzero, fits⟩ := exact
    obtain ⟨x, divided, value⟩ := div_exact p q nonzero fits
    have divisor : b.toNumber.equal .zero = .ok false := by
      rw [equal_eq q rational?_zero, decide_eq_false nonzero]
    exact ⟨.number x, by simp [Operator.apply, Operator.quotient, divisor, divided, Except.map],
      number_shows rfl value⟩
  | equal =>
    refine ⟨_, by rw [Operator.apply, equal_eq p q]; rfl, ?_⟩
    simp [Shows, isTruth, Operator.isComparison, Formula.exact, Operator.exact]
  | less =>
    refine ⟨_, by rw [Operator.apply, less_eq p q]; rfl, ?_⟩
    simp [Shows, isTruth, Operator.isComparison, Formula.exact, Operator.exact]
  | greater =>
    refine ⟨_, by rw [Operator.apply, greater_eq p q]; rfl, ?_⟩
    simp [Shows, isTruth, Operator.isComparison, Formula.exact, Operator.exact]

theorem exactAmong_eq (formulas : List Formula) : exactAmong formulas = formulas.map exact := by
  induction formulas with
  | nil => rfl
  | cons formula formulas ih => rw [exactAmong, ih, List.map_cons]

theorem callFunction_exact {name : String} {position : Nat} {arguments : List Formula}
    {values : List Value} {function : Function}
    (arity : checkArity name arguments.length = .ok function)
    (shows : List.Forall₂ (fun argument v => argument.Shows v) arguments values) :
    ∃ v, callFunction name values (some position) = .ok v ∧
      (call name position arguments).Shows v := by
  have named : Function.ofName? name = some function := by
    unfold checkArity at arity
    split at arity
    · cases arity
    next known =>
      split at arity <;> cases arity
      exact known
  cases shows with
  | nil =>
    have none_given : checkArity name ([] : List Value).length = .ok function := arity
    exact absurd rfl (ne_nil_of_checkArity none_given)
  | @cons argument v arguments values first others =>
    have numbers : List.Forall₂ (fun x q => x.rational? = some q) (values.map Value.toNumber)
        (arguments.map exact) := by
      rw [List.forall₂_map_left_iff, List.forall₂_map_right_iff]
      exact others.flip.imp fun v argument shows => Shows.toNumber shows
    have length : (v :: values).length = (argument :: arguments).length :=
      congrArg Nat.succ others.length_eq.symm
    rw [← length] at arity
    have extreme : exact (call name position (argument :: arguments)) =
        function.exact argument.exact (arguments.map exact) := by
      rw [exact, exactAmong_eq, List.map_cons, exactCall, named]
      rfl
    obtain ⟨x, selected, value⟩ : ∃ x, function.apply v values = .ok (.number x) ∧
        x.rational? = some (function.exact argument.exact (arguments.map exact)) := by
      cases function with
      | max | mmax =>
        obtain ⟨x, selected, value⟩ := greatest_exact first.toNumber numbers
        exact ⟨x, by simp [Function.apply, selected, Except.map], value⟩
      | min | mmin =>
        obtain ⟨x, selected, value⟩ := least_exact first.toNumber numbers
        exact ⟨x, by simp [Function.apply, selected, Except.map], value⟩
    refine ⟨.number x, ?_, number_shows rfl (extreme ▸ value)⟩
    unfold callFunction
    rw [arity]
    simp [selected]

theorem allExact_iff {formulas : List Formula} :
    AllExact formulas ↔ ∀ formula ∈ formulas, IsExact formula := by
  induction formulas with
  | nil => simp [AllExact]
  | cons formula formulas ih => simp [AllExact, ih]

theorem values_exact {follow : Token → Outcome} {arguments : List Formula}
    (each : ∀ argument ∈ arguments, ∃ v, argument.value follow = .ok v ∧ argument.Shows v) :
    ∃ all, values follow arguments = .ok all ∧
      List.Forall₂ (fun argument v => argument.Shows v) arguments all := by
  induction arguments with
  | nil => exact ⟨[], rfl, .nil⟩
  | cons argument arguments ih =>
    obtain ⟨⟨v, valued, shows⟩, others⟩ := List.forall_mem_cons.1 each
    obtain ⟨all, evaluated, rest⟩ := ih others
    exact ⟨v :: all, by rw [values, valued, ok_bind, evaluated]; rfl, .cons shows rest⟩

end Values

theorem value_exact {follow : Token → Outcome} {formula : Formula}
    (closed : formula.references = []) (fits : formula.Fits) (exact : formula.IsExact) :
    ∃ v, formula.value follow = .ok v ∧ formula.Shows v := by
  induction formula using induct with
  | number numeral position =>
    refine ⟨numeralValue numeral, rfl, number_shows rfl ?_⟩
    simp [Decimal.ofNat, rational?, signed, Formula.exact]
  | reference name position => cases closed
  | call name position arguments ih =>
    obtain ⟨⟨function, arity⟩, all_fit⟩ := fits
    have each (argument : Formula) (member : argument ∈ arguments) :
        ∃ v, argument.value follow = .ok v ∧ argument.Shows v := by
      have none : argument.references = [] := by
        rw [List.eq_nil_iff_forall_not_mem]
        intro name inside
        have among : name ∈ referencesAmong arguments :=
          mem_referencesAmong.2 ⟨argument, member, inside⟩
        rw [show referencesAmong arguments = [] from closed] at among
        cases among
      exact ih argument member none (allFit_iff.1 all_fit argument member)
        (allExact_iff.1 exact argument member)
    obtain ⟨all, evaluated, shows⟩ := values_exact each
    obtain ⟨v, called, shown⟩ := callFunction_exact arity shows
    refine ⟨v, ?_, shown⟩
    rw [value, evaluated, ok_bind, called]
  | negation position operand ih =>
    obtain ⟨v, valued, shows⟩ := ih closed fits exact
    refine ⟨.boolean (decide (operand.exact = 0)), ?_, ?_⟩
    · rw [value, valued, ok_bind, Evaluation.negate, shows.toBoolean]
      simp [pure, Except.pure]
    · simp [Shows, isTruth, Formula.exact]
  | binary operator position left right ihl ihr =>
    obtain ⟨first, second⟩ := List.append_eq_nil_iff.1 closed
    obtain ⟨a, valued_left, shows_left⟩ := ihl first fits.1 exact.1
    obtain ⟨b, valued_right, shows_right⟩ := ihr second fits.2 exact.2.1
    obtain ⟨v, applied, shows⟩ := apply_exact shows_left shows_right exact.2.2
    refine ⟨v, ?_, shows⟩
    rw [value, valued_left, ok_bind, valued_right, ok_bind, applied]

/-- A formula without references comes to its exact value, if all steps of the exact calculation
can be represented. -/
theorem evaluateWithin_exact (accessor : Option Accessor) (chain : Chain) (allowance : Allowance)
    (text : String) (formula : Formula) (parsed : ofText? text = .ok (some formula))
    (closed : formula.references = []) (exact : formula.IsExact)
    (shallow : evaluateWithin accessor chain allowance text ≠ .error .nestedTooDeeply) :
    ∃ v, evaluateWithin accessor chain allowance text = .ok v ∧ formula.Shows v := by
  obtain ⟨parses, fits⟩ := parses_of_ofText parsed
  rw [evaluateWithin_unlimited shallow, evaluateWithin_parsed accessor chain parses]
  exact value_exact closed fits exact

theorem evaluateWithin_exact_quotient :
    let formula := Formula.binary .divide 1 (.number "6" 0) (.number "4" 2)
    ∃ v, evaluateWithin none (Chain.start none 64 (by decide)) none "6/4" = .ok v ∧
      formula.Shows v := by
  intro formula
  have parsed : ofText? "6/4" = .ok (some formula) := by cbv
  have dividend : (Formula.number "6" 0).exact = 6 := by
    rw [Formula.exact]
    rfl
  have divisor : (Formula.number "4" 2).exact = 4 := by
    rw [Formula.exact]
    rfl
  have quotient : Representable ((6 : ℚ) / 4) := by
    refine .inr ⟨⟨15, -1, by norm_num, by norm_num⟩, ?_, ?_⟩
    · exact le_trans (ten_pow_le_iff.2 (show (-999999 : ℤ) ≤ 0 by omega)) (by norm_num)
    · exact le_trans (show |(6 : ℚ) / 4| ≤ 10 ^ (1 : ℤ) by norm_num) (ten_pow_le_iff.2 (by omega))
  have exact : formula.IsExact := by
    refine ⟨trivial, trivial, ?_⟩
    rw [dividend, divisor]
    exact ⟨by norm_num, quotient⟩
  obtain ⟨parses, fits⟩ := parses_of_ofText parsed
  have shallow : evaluateWithin none (Chain.start none 64 (by decide)) none "6/4" ≠
      .error .nestedTooDeeply := by
    obtain ⟨v, valued, _⟩ := value_exact rfl fits exact
    rw [evaluateWithin_parsed none _ parses, valued]
    simp
  exact evaluateWithin_exact none _ none "6/4" formula parsed rfl exact shallow

end Formula
end FormulaGrid
