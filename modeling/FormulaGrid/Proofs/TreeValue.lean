import FormulaGrid.Evaluation.Descent
import FormulaGrid.Formula.Check
import FormulaGrid.Proofs.Failure

/-! The value of a tree: operands and arguments from left to right, then the operator or function.
The first failure in that order is that of the tree. -/
namespace FormulaGrid.Formula

open FormulaGrid.Failure

mutual
/-- The value of a formula whose references have the values that `follow` gives them. -/
def value (follow : Token → Outcome) : Formula → Outcome
  | .number numeral _ => .ok (Evaluation.numeralValue numeral)
  | .reference name position => follow ⟨.cellReference, name, position⟩
  | .call name position arguments => do
    callFunction name (← values follow arguments) (some position)
  | .negation _ operand => do Evaluation.negate (← value follow operand)
  | .binary operator position left right => do
    let left ← value follow left
    let right ← value follow right
    operator.apply position left right

def values (follow : Token → Outcome) : List Formula → Except Fault (List Value)
  | [] => .ok []
  | formula :: formulas => do
    let first ← value follow formula
    let others ← values follow formulas
    return first :: others
end

mutual
/-- Whether every call has as many arguments as its function takes. -/
def Fits : Formula → Prop
  | .number _ _ => True
  | .reference _ _ => True
  | .call name _ arguments =>
    (∃ function, checkArity name arguments.length = .ok function) ∧ AllFit arguments
  | .negation _ operand => Fits operand
  | .binary _ _ left right => Fits left ∧ Fits right

def AllFit : List Formula → Prop
  | [] => True
  | formula :: formulas => Fits formula ∧ AllFit formulas
end

@[elab_as_elim]
theorem induct {motive : Formula → Prop}
    (number : ∀ numeral position, motive (.number numeral position))
    (reference : ∀ name position, motive (.reference name position))
    (call : ∀ name position arguments, (∀ argument ∈ arguments, motive argument) →
      motive (.call name position arguments))
    (negation : ∀ position operand, motive operand → motive (.negation position operand))
    (binary : ∀ operator position left right, motive left → motive right →
      motive (.binary operator position left right)) : ∀ formula, motive formula
  | .number numeral position => number numeral position
  | .reference name position => reference name position
  | .call name position arguments =>
    call name position arguments fun argument _ =>
      induct number reference call negation binary argument
  | .negation position operand =>
    negation position operand (induct number reference call negation binary operand)
  | .binary operator position left right =>
    binary operator position left right (induct number reference call negation binary left)
      (induct number reference call negation binary right)

section Calls

theorem allFit_iff {formulas : List Formula} :
    AllFit formulas ↔ ∀ formula ∈ formulas, Fits formula := by
  induction formulas with
  | nil => simp [AllFit]
  | cons formula formulas ih => simp [AllFit, ih]

theorem wrongCallsAmong_eq_nil_iff {depth : Nat} {formulas : List Formula} :
    wrongCallsAmong depth formulas = [] ↔ ∀ formula ∈ formulas, wrongCalls depth formula = [] := by
  induction formulas with
  | nil => simp [wrongCallsAmong]
  | cons formula formulas ih => simp [wrongCallsAmong, ih]

theorem wrongCall_toList_eq_nil_iff {depth position count : Nat} {name : String} :
    (wrongCall? depth name position count).toList = [] ↔
      ∃ function, checkArity name count = .ok function := by
  unfold wrongCall?
  cases checkArity name count <;> simp

theorem wrongCalls_eq_nil_iff {depth : Nat} {formula : Formula} :
    wrongCalls depth formula = [] ↔ formula.Fits := by
  induction formula using induct generalizing depth with
  | number | reference => simp [wrongCalls, Fits]
  | call name position arguments ih =>
    rw [wrongCalls, List.append_eq_nil_iff, wrongCall_toList_eq_nil_iff,
      wrongCallsAmong_eq_nil_iff, Fits, allFit_iff]
    exact and_congr_right fun _ => forall_congr' fun argument =>
      forall_congr' fun member => ih argument member
  | negation position operand ih =>
    rw [wrongCalls, Fits]
    exact ih
  | binary operator position left right ihl ihr =>
    rw [wrongCalls, Fits, List.append_eq_nil_iff]
    exact and_congr ihl ihr

theorem deepest_eq_none_iff {wrong : List WrongCall} : deepest? wrong = none ↔ wrong = [] := by
  cases wrong with
  | nil => simp [deepest?]
  | cons call others =>
    simp only [deepest?, reduceCtorEq, iff_false]
    cases deepest? others <;> simp

theorem checked_ok_iff {formula result : Formula} :
    formula.checked = .ok result ↔ formula.Fits ∧ result = formula := by
  rw [← wrongCalls_eq_nil_iff, ← deepest_eq_none_iff, checked]
  cases deepest? (wrongCalls 0 formula) with
  | none => simp [eq_comm]
  | some call => simp

theorem mem_wrongCallsAmong {depth : Nat} {formulas : List Formula} {call : WrongCall} :
    call ∈ wrongCallsAmong depth formulas ↔
      ∃ formula ∈ formulas, call ∈ wrongCalls depth formula := by
  induction formulas with
  | nil => simp [wrongCallsAmong]
  | cons formula formulas ih => simp [wrongCallsAmong, ih]

theorem wrongCalls_code {depth : Nat} {formula : Formula} {call : WrongCall}
    (member : call ∈ wrongCalls depth formula) : call.error.cause.code = "function_error" := by
  induction formula using induct generalizing depth with
  | number | reference => simp [wrongCalls] at member
  | call name position arguments ih =>
    rw [wrongCalls] at member
    rcases List.mem_append.1 member with own | inside
    · unfold wrongCall? at own
      cases arity : checkArity name arguments.length with
      | ok function => simp [arity] at own
      | error cause =>
        obtain rfl : call = ⟨depth, cause.at position⟩ := by simpa [arity] using own
        exact checkArity_error_code arity
    · obtain ⟨argument, among, inside⟩ := mem_wrongCallsAmong.1 inside
      exact ih argument among inside
  | negation position operand ih =>
    rw [wrongCalls] at member
    exact ih member
  | binary operator position left right ihl ihr =>
    rw [wrongCalls] at member
    rcases List.mem_append.1 member with inside | inside
    · exact ihl inside
    · exact ihr inside

theorem deepest_mem {wrong : List WrongCall} {call : WrongCall}
    (found : deepest? wrong = some call) : call ∈ wrong := by
  induction wrong generalizing call with
  | nil => cases found
  | cons first others ih =>
    rw [deepest?] at found
    cases deeper : deepest? others with
    | none =>
      rw [deeper] at found
      cases found
      exact List.mem_cons_self
    | some other =>
      rw [deeper] at found
      dsimp only at found
      split at found <;> cases found
      · exact List.mem_cons_of_mem _ (ih deeper)
      · exact List.mem_cons_self

theorem checked_error {formula : Formula} {error : FormulaError}
    (failed : formula.checked = .error error) :
    error.cause.code = "function_error" ∧ ¬ formula.Fits := by
  constructor
  · unfold checked at failed
    split at failed
    · cases failed
    next call found =>
      cases failed
      exact wrongCalls_code (deepest_mem found)
  · intro fits
    rw [checked_ok_iff.2 ⟨fits, rfl⟩] at failed
    cases failed

theorem checkArity_accepts {function : Function} {count : Nat}
    (accepted : function.arity.accepts count) : checkArity function.name count = .ok function := by
  simp [checkArity, Function.ofName?_name, accepted]

theorem ne_nil_of_checkArity {name : String} {function : Function} {arguments : List Value}
    (fits : checkArity name arguments.length = .ok function) : arguments ≠ [] := by
  rintro rfl
  unfold checkArity at fits
  cases named : Function.ofName? name with
  | none =>
    rw [named] at fits
    cases fits
  | some called =>
    rw [named] at fits
    cases called <;> cases fits

end Calls

section Values

variable {follow : Token → Outcome}

theorem values_ok {formulas : List Formula} {all : List Value}
    (valued : values follow formulas = .ok all) :
    all.length = formulas.length ∧ ∀ formula ∈ formulas, ∃ v, formula.value follow = .ok v := by
  induction formulas generalizing all with
  | nil =>
    cases valued
    exact ⟨rfl, by simp⟩
  | cons formula formulas ih =>
    rw [values] at valued
    obtain ⟨first, head, valued⟩ := bind_eq_ok.1 valued
    obtain ⟨others, tail, valued⟩ := bind_eq_ok.1 valued
    cases valued
    obtain ⟨length, rest⟩ := ih tail
    exact ⟨congrArg Nat.succ length, List.forall_mem_cons.2 ⟨⟨first, head⟩, rest⟩⟩

theorem values_error {formulas : List Formula} {fault : Fault}
    (failed : values follow formulas = .error fault) :
    ∃ formula ∈ formulas, formula.value follow = .error fault := by
  induction formulas with
  | nil => cases failed
  | cons formula formulas ih =>
    rw [values] at failed
    rcases bind_eq_error.1 failed with head | ⟨first, _, failed⟩
    · exact ⟨formula, by simp, head⟩
    · rcases bind_eq_error.1 failed with tail | ⟨others, _, failed⟩
      · obtain ⟨other, member, valued⟩ := ih tail
        exact ⟨other, by simp [member], valued⟩
      · cases failed

theorem mem_referencesAmong {formulas : List Formula} {name : String} :
    name ∈ referencesAmong formulas ↔ ∃ formula ∈ formulas, name ∈ formula.references := by
  induction formulas with
  | nil => simp [referencesAmong]
  | cons formula formulas ih => simp [referencesAmong, ih]

theorem apply_error_code {operator : Operator} {position : Nat} {left right : Value}
    {fault : Fault} (failed : operator.apply position left right = .error fault) :
    fault.code = "division_by_zero" ∨ fault.code = "numeric_overflow" := by
  have numeric {α β : Type} {result : Except Decimal.Signal α} {f : α → β}
      (failed : (result.mapError Fault.numeric).map f = .error fault) :
      fault.code = "numeric_overflow" := by
    cases result <;> cases failed
    rfl
  cases operator with
  | divide =>
    simp only [Operator.apply, Operator.quotient] at failed
    cases zero : right.toNumber.equal .zero with
    | error signal =>
      rw [zero] at failed
      cases failed
      exact .inr rfl
    | ok isZero =>
      rw [zero] at failed
      cases isZero with
      | true =>
        cases failed
        exact .inl rfl
      | false => exact .inr (numeric failed)
  | add | subtract | multiply | equal | less | greater => exact .inr (numeric failed)

theorem negate_error_code {operand : Value} {fault : Fault}
    (failed : Evaluation.negate operand = .error fault) : fault.code = "numeric_overflow" := by
  unfold Evaluation.negate at failed
  cases truth : operand.toBoolean with
  | error signal =>
    rw [truth] at failed
    cases failed
    rfl
  | ok value =>
    rw [truth] at failed
    cases failed

theorem callFunction_error {name : String} {arguments : List Value} {position : Option Nat}
    {fault : Fault} (failed : callFunction name arguments position = .error fault) :
    (fault.code = "function_error" ∧
      ¬ ∃ function, checkArity name arguments.length = .ok function) ∨
    fault.code = "numeric_overflow" := by
  unfold callFunction at failed
  cases arity : checkArity name arguments.length with
  | error cause =>
    left
    rw [arity] at failed
    cases failed
    exact ⟨checkArity_error_code arity, by simp⟩
  | ok function =>
    right
    rw [arity] at failed
    cases arguments with
    | nil => exact absurd rfl (ne_nil_of_checkArity arity)
    | cons first others =>
      dsimp only at failed
      cases applied : function.apply first others with
      | error signal =>
        rw [applied] at failed
        cases failed
        rfl
      | ok value =>
        rw [applied] at failed
        cases failed

theorem callFunction_ok {name : String} {arguments : List Value} {position : Option Nat}
    {result : Value} (called : callFunction name arguments position = .ok result) :
    ∃ function, checkArity name arguments.length = .ok function := by
  unfold callFunction at called
  cases arity : checkArity name arguments.length with
  | error cause =>
    rw [arity] at called
    cases called
  | ok function => exact ⟨function, rfl⟩

/-- A formula with a value has calls with the right numbers of arguments only, and values of all
its references. -/
theorem value_ok {formula : Formula} {result : Value}
    (valued : formula.value follow = .ok result) :
    formula.Fits ∧ ∀ name ∈ formula.references, ∃ position v,
      follow ⟨.cellReference, name, position⟩ = .ok v := by
  induction formula using induct generalizing result with
  | number => simp [Fits, references]
  | reference name position =>
    rw [value] at valued
    refine ⟨trivial, fun other member => ?_⟩
    obtain rfl : other = name := by simpa [references] using member
    exact ⟨position, result, valued⟩
  | call name position arguments ih =>
    rw [value] at valued
    obtain ⟨all, each, called⟩ := bind_eq_ok.1 valued
    obtain ⟨length, valued⟩ := values_ok each
    obtain ⟨function, arity⟩ := callFunction_ok called
    constructor
    · refine ⟨⟨function, length ▸ arity⟩, allFit_iff.2 fun argument member => ?_⟩
      obtain ⟨v, argued⟩ := valued argument member
      exact (ih argument member argued).1
    · intro other member
      obtain ⟨argument, among, inside⟩ := mem_referencesAmong.1 member
      obtain ⟨v, argued⟩ := valued argument among
      exact (ih argument among argued).2 other inside
  | negation position operand ih =>
    rw [value] at valued
    obtain ⟨v, operated, _⟩ := bind_eq_ok.1 valued
    exact ih operated
  | binary operator position left right ihl ihr =>
    rw [value] at valued
    obtain ⟨first, lefted, valued⟩ := bind_eq_ok.1 valued
    obtain ⟨second, righted, _⟩ := bind_eq_ok.1 valued
    refine ⟨⟨(ihl lefted).1, (ihr righted).1⟩, fun name member => ?_⟩
    rcases List.mem_append.1 member with inside | inside
    · exact (ihl lefted).2 name inside
    · exact (ihr righted).2 name inside

/-- What keeps a formula from having a value: one of its references, a call with a wrong number of
arguments, or a number that cannot be computed. -/
theorem value_error {formula : Formula} {fault : Fault}
    (failed : formula.value follow = .error fault) :
    (∃ name ∈ formula.references, ∃ position,
      follow ⟨.cellReference, name, position⟩ = .error fault) ∨
    (fault.code = "function_error" ∧ ¬ formula.Fits) ∨
    fault.code = "division_by_zero" ∨ fault.code = "numeric_overflow" := by
  induction formula using induct with
  | number => cases failed
  | reference name position => exact .inl ⟨name, by simp [references], position, failed⟩
  | call name position arguments ih =>
    rw [value] at failed
    rcases bind_eq_error.1 failed with argued | ⟨all, each, called⟩
    · obtain ⟨argument, member, argued⟩ := values_error argued
      rcases ih argument member argued with ⟨other, inside, followed⟩ | ⟨code, unfit⟩ | code
      · exact .inl ⟨other, mem_referencesAmong.2 ⟨argument, member, inside⟩, followed⟩
      · exact .inr (.inl ⟨code, fun fits => unfit (allFit_iff.1 fits.2 argument member)⟩)
      · exact .inr (.inr code)
    · obtain ⟨length, _⟩ := values_ok each
      rcases callFunction_error called with ⟨code, unfit⟩ | code
      · exact .inr (.inl ⟨code, fun fits => unfit (length ▸ fits.1)⟩)
      · exact .inr (.inr (.inr code))
  | negation position operand ih =>
    rw [value] at failed
    rcases bind_eq_error.1 failed with operated | ⟨v, _, negated⟩
    · exact ih operated
    · exact .inr (.inr (.inr (negate_error_code negated)))
  | binary operator position left right ihl ihr =>
    rw [value] at failed
    rcases bind_eq_error.1 failed with lefted | ⟨first, _, failed⟩
    · rcases ihl lefted with ⟨name, inside, followed⟩ | ⟨code, unfit⟩ | code
      · exact .inl ⟨name, List.mem_append_left _ inside, followed⟩
      · exact .inr (.inl ⟨code, fun fits => unfit fits.1⟩)
      · exact .inr (.inr code)
    · rcases bind_eq_error.1 failed with righted | ⟨second, _, applied⟩
      · rcases ihr righted with ⟨name, inside, followed⟩ | ⟨code, unfit⟩ | code
        · exact .inl ⟨name, List.mem_append_right _ inside, followed⟩
        · exact .inr (.inl ⟨code, fun fits => unfit fits.2⟩)
        · exact .inr (.inr code)
      · exact .inr (.inr (apply_error_code applied))

end Values

end FormulaGrid.Formula
