import FormulaGrid.Formula.Basic

/-! Reading tokens into a formula with a stack of open brackets, in a single pass and to any depth.
Within a bracket at most one comparison, one sum and one product wait for their right operands, and
any number of negations wait for theirs. A token that cannot follow is reported; where a single kind
could have followed, the report says which. -/
namespace FormulaGrid.Formula

structure Waiting where
  left : Formula
  operator : Operator
  position : Nat

/-- What waits for a right operand within a bracket. Negations are kept innermost first. -/
structure Pending where
  compared : Option Waiting
  summed : Option Waiting
  multiplied : Option Waiting
  negations : List Nat

def Pending.none : Pending :=
  ⟨.none, .none, .none, []⟩

/-- An open bracket, with what waits outside it. The arguments before the current one are kept last
first. -/
inductive Bracket where
  | group (outside : Pending)
  | call (outside : Pending) (name : String) (position : Nat) (arguments : List Formula)

/-- What has been read within the innermost bracket after everything in `Pending`: nothing yet, a
function name, the opening bracket of a call, or a whole factor. -/
inductive Phase where
  | operand
  | callee (name : String) (position : Nat)
  | firstArgument
  | operated (value : Formula)

/-- How far the tokens have been read: the open brackets, innermost first, and what the innermost
one holds. -/
structure State where
  brackets : List Bracket
  pending : Pending
  phase : Phase

namespace Pending

def join : Option Waiting → Formula → Formula
  | .none, right => right
  | some waiting, right => .binary waiting.operator waiting.position waiting.left right

def negated (pending : Pending) (operand : Formula) : Formula :=
  pending.negations.foldl (fun value position => .negation position value) operand

def product (pending : Pending) (factor : Formula) : Formula :=
  join pending.multiplied factor

def sum (pending : Pending) (factor : Formula) : Formula :=
  join pending.summed (pending.product factor)

def comparison (pending : Pending) (factor : Formula) : Formula :=
  join pending.compared (pending.sum factor)

end Pending

namespace State

def start : State :=
  ⟨[], .none, .operand⟩

def operated (brackets : List Bracket) (pending : Pending) (operand : Formula) : State :=
  ⟨brackets, { pending with negations := [] }, .operated (pending.negated operand)⟩

def readOperand (state : State) (token : Token) : Except FormulaError State :=
  match token.kind with
  | .number =>
    .ok (operated state.brackets state.pending (.number token.lexeme token.position))
  | .cellReference =>
    .ok (operated state.brackets state.pending (.reference token.lexeme token.position))
  | .function => .ok { state with phase := .callee token.lexeme token.position }
  | .not =>
    .ok {
      state with
      pending := { state.pending with negations := token.position :: state.pending.negations }
      phase := .operand }
  | .leftParen => .ok ⟨.group state.pending :: state.brackets, .none, .operand⟩
  | _ => .error (.unexpected token)

def readCallee (state : State) (name : String) (position : Nat) (token : Token) :
    Except FormulaError State :=
  if token.kind = .leftParen then
    .ok ⟨.call state.pending name position [] :: state.brackets, .none, .firstArgument⟩
  else .error (.expected .leftParen token)

def closeBracket (state : State) (last : Formula) (token : Token) : Except FormulaError State :=
  match state.brackets with
  | [] => .error (.expected .endOfInput token)
  | .group outside :: brackets => .ok (operated brackets outside last)
  | .call outside name position arguments :: brackets =>
    .ok (operated brackets outside (.call name position (last :: arguments).reverse))

def nextArgument (state : State) (argument : Formula) (token : Token) : Except FormulaError State :=
  match state.brackets with
  | [] => .error (.expected .endOfInput token)
  | .group _ :: _ => .error (.expected .rightParen token)
  | .call outside name position arguments :: brackets =>
    .ok ⟨.call outside name position (argument :: arguments) :: brackets, .none, .operand⟩

def readOperator (state : State) (factor : Formula) (token : Token) : Except FormulaError State :=
  let pending := state.pending
  match token.kind.product?, token.kind.sum?, token.kind.comparison? with
  | some operator, _, _ =>
    .ok {
      state with
      pending := {
        pending with
        multiplied := some ⟨pending.product factor, operator, token.position⟩ }
      phase := .operand }
  | _, some operator, _ =>
    .ok {
      state with
      pending := {
        pending with
        summed := some ⟨pending.sum factor, operator, token.position⟩
        multiplied := .none }
      phase := .operand }
  | _, _, some operator =>
    if pending.compared.isSome then .error (.unexpected token)
    else
      .ok {
        state with
        pending := ⟨some ⟨pending.sum factor, operator, token.position⟩, .none, .none, []⟩
        phase := .operand }
  | _, _, _ =>
    match token.kind with
    | .rightParen => closeBracket state (pending.comparison factor) token
    | .comma => nextArgument state (pending.comparison factor) token
    | _ => .error (.unexpected token)

def step (state : State) (token : Token) : Except FormulaError State :=
  match state.phase with
  | .operand => state.readOperand token
  | .callee name position => state.readCallee name position token
  | .firstArgument =>
    match token.kind, state.brackets with
    | .rightParen, .call outside name position _ :: brackets =>
      .ok (operated brackets outside (.call name position []))
    | _, _ => state.readOperand token
  | .operated factor => state.readOperator factor token

def finish (state : State) (token : Token) : Except FormulaError Formula :=
  match state.phase, state.brackets with
  | .operated factor, [] => .ok (state.pending.comparison factor)
  | .operated _, .group _ :: _ => .error (.expected .rightParen token)
  | .callee _ _, _ => .error (.expected .leftParen token)
  | _, _ => .error (.unexpected token)

def read : State → List Token → Except FormulaError Formula
  | state, [] => state.finish (Token.finish 0)
  | state, token :: tokens => do
    if token.kind = .endOfInput then state.finish token
    else (← state.step token).read tokens

end State

def ofTokens (tokens : List Token) : Except FormulaError Formula :=
  State.start.read tokens

end FormulaGrid.Formula
