import FormulaGrid.Proofs.Exactness

/-! The order that functions and comparisons go by. It is that of the exact numbers, however these
are written and however many digits they have: a function returns the first of the extreme arguments
as it is, and two operands are less, equal or greater as their numbers are. -/
namespace FormulaGrid

open FormulaGrid.Decimal FormulaGrid.Evaluation FormulaGrid.Failure FormulaGrid.Formula

/-- Whether an element is the first of those in a list whose measure is greatest. -/
def FirstGreatest {α : Type} (measure : α → ℚ) (list : List α) (x : α) : Prop :=
  ∃ before after, list = before ++ x :: after ∧
    (∀ y ∈ before, measure y < measure x) ∧ ∀ y ∈ after, measure y ≤ measure x

namespace FirstGreatest

variable {α β : Type} {measure : α → ℚ} {list : List α} {x y z : α}

theorem mem (first : FirstGreatest measure list x) : x ∈ list := by
  obtain ⟨before, after, rfl, -, -⟩ := first
  simp

theorem le (first : FirstGreatest measure list x) : ∀ y ∈ list, measure y ≤ measure x := by
  obtain ⟨before, after, rfl, earlier, later⟩ := first
  exact List.forall_mem_append.2
    ⟨fun y member => (earlier y member).le, List.forall_mem_cons.2 ⟨le_rfl, later⟩⟩

theorem cons (first : FirstGreatest measure (y :: list) x) (less : measure z < measure y) :
    FirstGreatest measure (z :: y :: list) x := by
  have below := less.trans_le (first.le y List.mem_cons_self)
  obtain ⟨before, after, split, earlier, later⟩ := first
  exact ⟨z :: before, after, by rw [split]; rfl, List.forall_mem_cons.2 ⟨below, earlier⟩, later⟩

theorem insert (first : FirstGreatest measure (y :: list) x) (least : measure z ≤ measure y) :
    FirstGreatest measure (y :: z :: list) x := by
  obtain ⟨before, after, split, earlier, later⟩ := first
  cases before with
  | nil =>
    obtain ⟨rfl, rfl⟩ := List.cons.inj split
    exact ⟨[], z :: list, rfl, by simp, List.forall_mem_cons.2 ⟨least, later⟩⟩
  | cons _ before =>
    obtain ⟨rfl, rfl⟩ := List.cons.inj split
    obtain ⟨below, others⟩ := List.forall_mem_cons.1 earlier
    exact ⟨y :: z :: before, after, rfl, List.forall_mem_cons.2
      ⟨below, List.forall_mem_cons.2 ⟨least.trans_lt below, others⟩⟩, later⟩

theorem of_map {f : β → α} {items : List β} (first : FirstGreatest measure (items.map f) x) :
    ∃ item, f item = x ∧ FirstGreatest (fun item => measure (f item)) items item := by
  obtain ⟨before, after, split, earlier, later⟩ := first
  obtain ⟨front, rest, rfl, rfl, same⟩ := List.map_eq_append_iff.1 split
  obtain ⟨item, back, rfl, rfl, rfl⟩ := List.map_eq_cons_iff.1 same
  exact ⟨item, rfl, front, back, rfl, List.forall_mem_map.1 earlier, List.forall_mem_map.1 later⟩

end FirstGreatest

namespace Value

variable {v : Value}

/-- Whether a value counts as a finite number. -/
def IsFinite (v : Value) : Prop := ∃ negative c e, v.toNumber = .finite negative c e

/-- The exact number that a value counts as. -/
def exact (v : Value) : ℚ := v.toNumber.rational?.getD 0

theorem IsFinite.rational? (finite : v.IsFinite) : v.toNumber.rational? = some v.exact := by
  obtain ⟨negative, c, e, number⟩ := finite
  rw [exact, number]
  rfl

end Value

namespace Function

/-- How far out a number lies in the direction in which a function looks. -/
def reach : Function → ℚ → ℚ
  | .max, q | .mmax, q => q
  | .min, q | .mmin, q => -q

/-- Selecting keeps the best number so far, so that it ends with the first of the best ones. -/
theorem select_first (precedes : Decimal → Decimal → Except Signal Bool) (measure : Decimal → ℚ)
    (best : Decimal) (numbers : List Decimal)
    (agree : ∀ x ∈ best :: numbers, ∀ y ∈ best :: numbers,
      precedes y x = .ok (decide (measure x < measure y))) :
    ∃ x, select precedes best numbers = .ok x ∧ FirstGreatest measure (best :: numbers) x := by
  induction numbers generalizing best with
  | nil => exact ⟨best, rfl, [], [], rfl, by simp, by simp⟩
  | cons number numbers ih =>
    rw [select, agree best List.mem_cons_self number (by simp), ok_bind]
    by_cases better : measure best < measure number
    · obtain ⟨x, selected, first⟩ := ih number fun x one y two =>
        agree x (List.mem_cons_of_mem _ one) y (List.mem_cons_of_mem _ two)
      rw [decide_eq_true better]
      exact ⟨x, selected, first.cons better⟩
    · have within : best :: numbers ⊆ best :: number :: numbers :=
        List.cons_subset_cons _ (List.subset_cons_self _ _)
      obtain ⟨x, selected, first⟩ := ih best fun x one y two => agree x (within one) y (within two)
      rw [decide_eq_false better]
      exact ⟨x, selected, first.insert (le_of_not_gt better)⟩

section Calls

variable {function : Function} {values : List Value}

theorem apply_first {first : Value} {others : List Value}
    (finite : ∀ v ∈ first :: others, v.IsFinite) :
    ∃ v, function.apply first others = .ok (.number v.toNumber) ∧
      FirstGreatest (fun v => function.reach v.exact) (first :: others) v := by
  have number (x : Decimal) (member : x ∈ (first :: others).map Value.toNumber) :
      x.rational? = some (x.rational?.getD 0) := by
    obtain ⟨v, inside, rfl⟩ := List.mem_map.1 member
    exact (finite v inside).rational?
  obtain ⟨x, applied, best⟩ : ∃ x, function.apply first others = .ok (.number x) ∧
      FirstGreatest (fun x => function.reach (x.rational?.getD 0))
        ((first :: others).map Value.toNumber) x := by
    cases function with
    | max | mmax =>
      obtain ⟨x, selected, best⟩ := select_first Decimal.greater (fun x => x.rational?.getD 0)
        first.toNumber (others.map Value.toNumber) fun x one y two =>
          greater_eq (number y two) (number x one)
      exact ⟨x, by rw [apply]; simp [greatest, selected, Except.map], best⟩
    | min | mmin =>
      obtain ⟨x, selected, best⟩ := select_first Decimal.less (fun x => -x.rational?.getD 0)
        first.toNumber (others.map Value.toNumber) fun x one y two => by
          rw [less_eq (number y two) (number x one)]
          simp
      exact ⟨x, by rw [apply]; simp [least, selected, Except.map], best⟩
  obtain ⟨v, rfl, furthest⟩ := best.of_map
  exact ⟨v, applied, furthest⟩

theorem call_first (function : Function) (finite : ∀ v ∈ values, v.IsFinite)
    (accepted : function.arity.accepts values.length) (position : Option Nat) :
    ∃ v, callFunction function.name values position = .ok (.number v.toNumber) ∧
      FirstGreatest (fun v => function.reach v.exact) values v := by
  have arity := checkArity_accepts accepted
  obtain ⟨first, others, rfl⟩ := List.exists_cons_of_ne_nil (ne_nil_of_checkArity arity)
  obtain ⟨v, applied, furthest⟩ := apply_first finite
  refine ⟨v, ?_, furthest⟩
  unfold callFunction
  rw [arity]
  dsimp only
  rw [applied, mapError_ok]

theorem reach_injective (function : Function) {p q : ℚ}
    (same : function.reach p = function.reach q) : p = q := by
  cases function <;> simpa [reach] using same

theorem call_perm {others : List Value} (finite : ∀ v ∈ values, v.IsFinite)
    (accepted : function.arity.accepts values.length) (permuted : others.Perm values)
    (position : Option Nat) :
    ∃ x y, callFunction function.name values position = .ok (.number x) ∧
      callFunction function.name others position = .ok (.number y) ∧ x.equal y = .ok true := by
  obtain ⟨v, called, furthest⟩ := call_first function finite accepted position
  obtain ⟨w, called', furthest'⟩ := call_first function
    (fun w member => finite w (permuted.mem_iff.1 member)) (permuted.length_eq ▸ accepted) position
  have same := le_antisymm (furthest'.le v (permuted.mem_iff.2 furthest.mem))
    (furthest.le w (permuted.mem_iff.1 furthest'.mem))
  refine ⟨_, _, called, called', ?_⟩
  rw [equal_eq (finite v furthest.mem).rational?
    (finite w (permuted.mem_iff.1 furthest'.mem)).rational?, decide_eq_true]
  exact function.reach_injective same

end Calls

end Function

namespace Operator

variable {a b : Value}

theorem apply_less (first : a.IsFinite) (second : b.IsFinite) (position : Nat) :
    less.apply position a b = .ok (.boolean (decide (a.exact < b.exact))) := by
  rw [apply, less_eq first.rational? second.rational?]
  rfl

theorem apply_equal (first : a.IsFinite) (second : b.IsFinite) (position : Nat) :
    equal.apply position a b = .ok (.boolean (decide (a.exact = b.exact))) := by
  rw [apply, equal_eq first.rational? second.rational?]
  rfl

theorem apply_greater (first : a.IsFinite) (second : b.IsFinite) (position : Nat) :
    greater.apply position a b = .ok (.boolean (decide (b.exact < a.exact))) := by
  rw [apply, greater_eq first.rational? second.rational?]
  rfl

theorem exists_unique_comparison (first : a.IsFinite) (second : b.IsFinite) (position : Nat) :
    ∃! operator : Operator,
      operator.isComparison ∧ operator.apply position a b = .ok (.boolean true) := by
  have less := apply_less first second position
  have equal := apply_equal first second position
  have greater := apply_greater first second position
  rcases lt_trichotomy a.exact b.exact with below | same | above
  · refine ⟨.less, ⟨rfl, by rw [less, decide_eq_true below]⟩, fun operator holds => ?_⟩
    cases operator <;> simp_all [isComparison, below.ne, below.not_gt]
  · refine ⟨.equal, ⟨rfl, by rw [equal, decide_eq_true same]⟩, fun operator holds => ?_⟩
    cases operator <;> simp_all [isComparison]
  · refine ⟨.greater, ⟨rfl, by rw [greater, decide_eq_true above]⟩, fun operator holds => ?_⟩
    cases operator <;> simp_all [isComparison, above.ne', above.not_gt]

end Operator

/-- A call with several arguments returns the number of the first greatest or least one as it is,
and in whatever order they come, the same number up to how it is written. Of the three comparisons
of two operands the one holds that holds of their exact numbers. -/
theorem extremes_ordered (values : List Value) (nonempty : values ≠ [])
    (finite : ∀ v ∈ values, v.IsFinite) (position : Option Nat) :
    (∃ v, callFunction "mmax" values position = .ok (.number v.toNumber) ∧
      FirstGreatest Value.exact values v) ∧
    (∃ v, callFunction "mmin" values position = .ok (.number v.toNumber) ∧
      FirstGreatest (fun v => -v.exact) values v) ∧
    (values.length = 2 →
      callFunction "max" values position = callFunction "mmax" values position ∧
      callFunction "min" values position = callFunction "mmin" values position) ∧
    (∀ (function : Function) (others : List Value), function.arity.accepts values.length →
      others.Perm values →
        ∃ x y, callFunction function.name values position = .ok (.number x) ∧
          callFunction function.name others position = .ok (.number y) ∧ x.equal y = .ok true) ∧
    ∀ a b : Value, a.IsFinite → b.IsFinite →
      (∀ place : Nat,
        Operator.less.apply place a b = .ok (.boolean (decide (a.exact < b.exact))) ∧
        Operator.equal.apply place a b = .ok (.boolean (decide (a.exact = b.exact))) ∧
        Operator.greater.apply place a b = .ok (.boolean (decide (b.exact < a.exact))) ∧
        ∃! operator : Operator,
          operator.isComparison ∧ operator.apply place a b = .ok (.boolean true)) ∧
      ∀ (accessor : Option Accessor) (chain : Chain) (allowance : Allowance) (text : String)
        (operator : Operator) (place : Nat) (f g : Formula),
        ofText? text = .ok (some (.binary operator place f g)) →
        f.value (referenceValue accessor chain none) = .ok a →
        g.value (referenceValue accessor chain none) = .ok b →
        evaluateWithin accessor chain allowance text ≠ .error .nestedTooDeeply →
        evaluateWithin accessor chain allowance text = operator.apply place a b := by
  have some_values : 1 ≤ values.length := List.length_pos_of_ne_nil nonempty
  have accepted : (Arity.atLeast 1).accepts values.length := decide_eq_true some_values
  refine ⟨Function.call_first .mmax finite accepted position,
    Function.call_first .mmin finite accepted position, fun two => ?_,
    fun function others accepted permuted => Function.call_perm finite accepted permuted position,
    fun a b first second => ⟨fun place => ?_, ?_⟩⟩
  · obtain ⟨a, b, rfl⟩ := List.length_eq_two.1 two
    exact ⟨rfl, rfl⟩
  · exact ⟨Operator.apply_less first second place, Operator.apply_equal first second place,
      Operator.apply_greater first second place,
      Operator.exists_unique_comparison first second place⟩
  · intro accessor chain allowance text operator place f g parsed valued_f valued_g shallow
    obtain ⟨parses, _⟩ := parses_of_ofText parsed
    rw [evaluateWithin_unlimited shallow, evaluateWithin_parsed accessor chain parses,
      Formula.value, valued_f, ok_bind, valued_g, ok_bind]

theorem extremes_ordered_tie :
    ∃ v, callFunction "mmax" [.boolean true, .text "2.00", .number (.ofNat 2)] none =
        .ok (.number v.toNumber) ∧
      FirstGreatest Value.exact [.boolean true, .text "2.00", .number (.ofNat 2)] v ∧
      v.toNumber = .finite false 200 (-2) := by
  have finite : ∀ v ∈ [Value.boolean true, .text "2.00", .number (.ofNat 2)], v.IsFinite := by
    have two : (Value.text "2.00").toNumber = .finite false 200 (-2) := by decide
    exact List.forall_mem_cons.2 ⟨⟨false, 1, 0, rfl⟩, List.forall_mem_cons.2
      ⟨⟨false, 200, -2, two⟩, List.forall_mem_singleton.2 ⟨false, 2, 0, rfl⟩⟩⟩
  have selected : callFunction "mmax" [.boolean true, .text "2.00", .number (.ofNat 2)] none =
      .ok (.number (.finite false 200 (-2))) := by decide +kernel
  obtain ⟨⟨v, called, first⟩, -⟩ := extremes_ordered _ (by simp) finite none
  have number := Value.number.inj (Except.ok.inj (selected.symm.trans called))
  exact ⟨v, called, first, number.symm⟩

end FormulaGrid
