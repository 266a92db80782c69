import FormulaGrid.Proofs.TreeValue

/-! Tokens that are moved to other offsets. Reading and checking them never looks at an offset: the
tree that comes of them, or the error, is the one of the tokens in their old place, moved in the
same way. Only the place where there is no token left, at offset zero, has to stay. -/
namespace FormulaGrid

open FormulaGrid.Failure

variable (move : Nat → Nat)

def Token.relocate (token : Token) : Token :=
  { token with position := move token.position }

@[simp]
theorem Token.relocate_kind (token : Token) : (token.relocate move).kind = token.kind :=
  rfl

@[simp]
theorem Token.relocate_lexeme (token : Token) : (token.relocate move).lexeme = token.lexeme :=
  rfl

@[simp]
theorem Token.relocate_position (token : Token) :
    (token.relocate move).position = move token.position :=
  rfl

def Cause.relocate : Cause → Cause
  | .unknownCharacter char offset => .unknownCharacter char (move offset)
  | .unknownKeyword word offset => .unknownKeyword word (move offset)
  | .malformedReference letters offset => .malformedReference letters (move offset)
  | .unexpectedToken found => .unexpectedToken (found.relocate move)
  | .expectedToken expected found => .expectedToken expected (found.relocate move)
  | cause => cause

theorem Cause.relocate_code (cause : Cause) : (cause.relocate move).code = cause.code := by
  cases cause <;> rfl

namespace FormulaError

def relocate (error : FormulaError) : FormulaError :=
  ⟨error.cause.relocate move, error.position.map move⟩

end FormulaError

namespace Formula

mutual
def relocate : Formula → Formula
  | .number numeral position => .number numeral (move position)
  | .reference name position => .reference name (move position)
  | .call name position arguments => .call name (move position) (relocateAmong arguments)
  | .negation position operand => .negation (move position) (relocate operand)
  | .binary operator position left right =>
    .binary operator (move position) (relocate left) (relocate right)

def relocateAmong : List Formula → List Formula
  | [] => []
  | formula :: formulas => relocate formula :: relocateAmong formulas
end

theorem relocateAmong_eq (formulas : List Formula) :
    relocateAmong move formulas = formulas.map (relocate move) := by
  induction formulas with
  | nil => rfl
  | cons formula formulas ih => rw [relocateAmong, ih, List.map_cons]

def Waiting.relocate (waiting : Waiting) : Waiting :=
  ⟨waiting.left.relocate move, waiting.operator, move waiting.position⟩

def Pending.relocate (pending : Pending) : Pending :=
  ⟨pending.compared.map (Waiting.relocate move), pending.summed.map (Waiting.relocate move),
    pending.multiplied.map (Waiting.relocate move), pending.negations.map move⟩

def Bracket.relocate : Bracket → Bracket
  | .group outside => .group (outside.relocate move)
  | .call outside name position arguments =>
    .call (outside.relocate move) name (move position) (arguments.map (Formula.relocate move))

def Phase.relocate : Phase → Phase
  | .operand => .operand
  | .callee name position => .callee name (move position)
  | .firstArgument => .firstArgument
  | .operated value => .operated (value.relocate move)

def State.relocate (state : State) : State :=
  ⟨state.brackets.map (Bracket.relocate move), state.pending.relocate move,
    state.phase.relocate move⟩

/-- A result in which everything is moved, the error if there is one. -/
def relocated {α : Type} (moved : α → α) (result : Except FormulaError α) : Except FormulaError α :=
  (result.map moved).mapError (FormulaError.relocate move)

section Results

variable {α β : Type} {moved : α → α} {others : β → β}

@[simp]
theorem relocated_ok (a : α) : relocated move moved (.ok a) = .ok (moved a) :=
  rfl

@[simp]
theorem relocated_error (error : FormulaError) :
    relocated move moved (.error error) = .error (error.relocate move) :=
  rfl

theorem relocated_bind {result : Except FormulaError α} {next further : α → Except FormulaError β}
    (moves : ∀ a, further (moved a) = relocated move others (next a)) :
    relocated move moved result >>= further = relocated move others (result >>= next) := by
  cases result with
  | error error => rfl
  | ok a => exact moves a

end Results

section Pending

variable (pending : Pending) (formula : Formula)

@[simp]
theorem Pending.relocate_none : Pending.none.relocate move = Pending.none :=
  rfl

theorem Pending.join_relocate (waiting : Option Waiting) :
    join (waiting.map (Waiting.relocate move)) (formula.relocate move) =
      (join waiting formula).relocate move := by
  cases waiting with
  | none => rfl
  | some waiting => simp only [Option.map_some, join, Waiting.relocate, Formula.relocate]

theorem Pending.negated_relocate :
    (pending.relocate move).negated (formula.relocate move) =
      (pending.negated formula).relocate move := by
  unfold negated Pending.relocate
  generalize pending.negations = positions
  induction positions generalizing formula with
  | nil => rfl
  | cons position positions ih =>
    rw [List.map_cons, List.foldl_cons, List.foldl_cons, ← ih, Formula.relocate]

theorem Pending.product_relocate :
    (pending.relocate move).product (formula.relocate move) =
      (pending.product formula).relocate move :=
  join_relocate move formula pending.multiplied

theorem Pending.sum_relocate :
    (pending.relocate move).sum (formula.relocate move) =
      (pending.sum formula).relocate move := by
  rw [sum, product_relocate]
  exact join_relocate move _ pending.summed

theorem Pending.comparison_relocate :
    (pending.relocate move).comparison (formula.relocate move) =
      (pending.comparison formula).relocate move := by
  rw [comparison, sum_relocate]
  exact join_relocate move _ pending.compared

end Pending

namespace State

variable (state : State) (token : Token)

theorem operated_relocate (brackets : List Bracket) (pending : Pending) (operand : Formula) :
    operated (brackets.map (Bracket.relocate move)) (pending.relocate move)
        (operand.relocate move) = (operated brackets pending operand).relocate move := by
  unfold operated
  rw [Pending.negated_relocate]
  rfl

theorem readOperand_relocate :
    (state.relocate move).readOperand (token.relocate move) =
      relocated move (relocate move) (state.readOperand token) := by
  unfold readOperand
  rw [Token.relocate_kind]
  cases token.kind with
  | number => exact congrArg Except.ok (operated_relocate move _ _ (.number _ _))
  | cellReference => exact congrArg Except.ok (operated_relocate move _ _ (.reference _ _))
  | _ => rfl

theorem readCallee_relocate (name : String) (position : Nat) :
    (state.relocate move).readCallee name (move position) (token.relocate move) =
      relocated move (relocate move) (state.readCallee name position token) := by
  unfold readCallee
  rw [Token.relocate_kind]
  split <;> rfl

theorem closeBracket_relocate (last : Formula) :
    (state.relocate move).closeBracket (last.relocate move) (token.relocate move) =
      relocated move (relocate move) (state.closeBracket last token) := by
  obtain ⟨brackets, pending, phase⟩ := state
  cases brackets with
  | nil => rfl
  | cons bracket brackets =>
    cases bracket with
    | group outside => exact congrArg Except.ok (operated_relocate move _ _ _)
    | call outside name position arguments =>
      refine congrArg Except.ok (Eq.trans ?_ (operated_relocate move _ _ _))
      rw [Formula.relocate, relocateAmong_eq, List.map_reverse, List.map_cons]

theorem nextArgument_relocate (argument : Formula) :
    (state.relocate move).nextArgument (argument.relocate move) (token.relocate move) =
      relocated move (relocate move) (state.nextArgument argument token) := by
  obtain ⟨brackets, pending, phase⟩ := state
  cases brackets with
  | nil => rfl
  | cons bracket brackets => cases bracket <;> rfl

theorem readOperator_relocate (factor : Formula) :
    (state.relocate move).readOperator (factor.relocate move) (token.relocate move) =
      relocated move (relocate move) (state.readOperator factor token) := by
  have pending : (state.relocate move).pending = state.pending.relocate move := rfl
  unfold readOperator
  simp only [pending, Token.relocate_kind, Pending.product_relocate, Pending.sum_relocate,
    Pending.comparison_relocate, closeBracket_relocate, nextArgument_relocate]
  split
  · rfl
  · rfl
  · have compared : (state.pending.relocate move).compared.isSome =
        state.pending.compared.isSome := Option.isSome_map
    rw [compared]
    split <;> rfl
  · split <;> rfl

theorem step_relocate :
    (state.relocate move).step (token.relocate move) =
      relocated move (relocate move) (state.step token) := by
  obtain ⟨brackets, pending, phase⟩ := state
  cases phase with
  | operand => exact readOperand_relocate move ⟨brackets, pending, .operand⟩ token
  | callee name position =>
    exact readCallee_relocate move ⟨brackets, pending, _⟩ token name position
  | operated factor => exact readOperator_relocate move ⟨brackets, pending, _⟩ token factor
  | firstArgument =>
    have otherwise := readOperand_relocate move ⟨brackets, pending, .firstArgument⟩ token
    obtain ⟨kind, lexeme, offset⟩ := token
    cases kind with
    | rightParen =>
      cases brackets with
      | nil => exact otherwise
      | cons bracket brackets =>
        cases bracket with
        | group outside => exact otherwise
        | call outside name position arguments =>
          exact congrArg Except.ok
            (operated_relocate move brackets outside (.call name position []))
    | _ => exact otherwise

theorem finish_relocate :
    (state.relocate move).finish (token.relocate move) =
      relocated move (Formula.relocate move) (state.finish token) := by
  obtain ⟨brackets, pending, phase⟩ := state
  cases phase with
  | operated factor =>
    cases brackets with
    | nil => exact congrArg Except.ok (Pending.comparison_relocate move pending factor)
    | cons bracket brackets => cases bracket <;> rfl
  | _ => cases brackets <;> rfl

variable {move}

theorem read_relocate (fixed : move 0 = 0) (tokens : List Token) :
    (state.relocate move).read (tokens.map (Token.relocate move)) =
      relocated move (Formula.relocate move) (state.read tokens) := by
  induction tokens generalizing state with
  | nil =>
    have nowhere : Token.finish 0 = (Token.finish 0).relocate move :=
      (congrArg Token.finish fixed).symm
    rw [List.map_nil, read, read, nowhere, finish_relocate]
    rw [← nowhere]
  | cons token tokens ih =>
    rw [List.map_cons, read, read, Token.relocate_kind]
    split
    · exact finish_relocate move state token
    · rw [step_relocate]
      exact relocated_bind move ih

end State

variable {move}

/-- Moving the tokens moves the tree that comes of them, or the error. -/
theorem ofTokens_relocate (fixed : move 0 = 0) (tokens : List Token) :
    ofTokens (tokens.map (Token.relocate move)) =
      relocated move (relocate move) (ofTokens tokens) :=
  State.read_relocate State.start fixed tokens

section Calls

variable (formula : Formula)

theorem references_relocate : (formula.relocate move).references = formula.references := by
  induction formula using induct with
  | number | reference => rfl
  | call name position arguments ih =>
    rw [relocate, references, references, relocateAmong_eq]
    induction arguments with
    | nil => rfl
    | cons argument arguments more =>
      obtain ⟨first, others⟩ := List.forall_mem_cons.1 ih
      rw [List.map_cons, referencesAmong, referencesAmong, first, more others]
  | negation position operand ih => exact ih
  | binary operator position left right ihl ihr =>
    rw [relocate, references, references, ihl, ihr]

def WrongCall.relocate (move : Nat → Nat) (call : WrongCall) : WrongCall :=
  ⟨call.depth, call.error.relocate move⟩

theorem wrongCall?_relocate (depth : Nat) (name : String) (position count : Nat) :
    wrongCall? depth name (move position) count =
      (wrongCall? depth name position count).map (WrongCall.relocate move) := by
  unfold wrongCall?
  cases arity : checkArity name count with
  | ok function => rfl
  | error cause =>
    have moved : cause.relocate move = cause := by
      unfold checkArity at arity
      split at arity
      · cases arity
        rfl
      · split at arity <;> cases arity
        rfl
    simp only [Option.map_some, WrongCall.relocate, FormulaError.relocate, Cause.at, moved]

theorem wrongCalls_relocate (depth : Nat) :
    wrongCalls depth (formula.relocate move) =
      (wrongCalls depth formula).map (WrongCall.relocate move) := by
  induction formula using induct generalizing depth with
  | number | reference => rfl
  | call name position arguments ih =>
    rw [relocate, wrongCalls, wrongCalls, wrongCall?_relocate, relocateAmong_eq, List.length_map,
      List.map_append, Option.toList_map]
    congr 1
    induction arguments with
    | nil => rfl
    | cons argument arguments more =>
      obtain ⟨first, others⟩ := List.forall_mem_cons.1 ih
      rw [List.map_cons, wrongCallsAmong, wrongCallsAmong, List.map_append, first,
        more others]
  | negation position operand ih => exact ih (depth + 1)
  | binary operator position left right ihl ihr =>
    rw [relocate, wrongCalls, wrongCalls, List.map_append, ihl, ihr]

theorem deepest?_relocate (calls : List WrongCall) :
    deepest? (calls.map (WrongCall.relocate move)) =
      (deepest? calls).map (WrongCall.relocate move) := by
  induction calls with
  | nil => rfl
  | cons call calls ih =>
    rw [List.map_cons, deepest?, deepest?, ih]
    cases deepest? calls with
    | none => rfl
    | some other =>
      refine congrArg some ?_
      rw [apply_ite (WrongCall.relocate move)]
      rfl

theorem checked_relocate :
    (formula.relocate move).checked = relocated move (relocate move) formula.checked := by
  rw [checked, checked, wrongCalls_relocate, deepest?_relocate]
  cases deepest? (wrongCalls 0 formula) <;> rfl

end Calls

theorem check_relocate (fixed : move 0 = 0) (tokens : List Token) :
    ofTokens (tokens.map (Token.relocate move)) >>= checked =
      relocated move (relocate move) (ofTokens tokens >>= checked) := by
  rw [ofTokens_relocate fixed]
  exact relocated_bind move checked_relocate

end Formula
end FormulaGrid
