import FormulaGrid.Evaluation.Basic

/-! Parsers that share one chain of open references. An evaluation enters references into the chain
while it evaluates their formulas, each by a parser of its own, and leaves them again. Where it
fails, the chain and the tokens of the parser stay as it has left them. -/
namespace FormulaGrid

/-- A parser between two evaluations: the cells that it sees, and the tokens that the last
evaluation has not taken. -/
structure Parser where
  accessor : Option Accessor
  ahead : List Token

namespace Parser

open FormulaGrid.Evaluation

def fresh (accessor : Option Accessor) : Parser :=
  ⟨accessor, []⟩

/-- What an evaluation works on: the chain, into which at most `room` references can be entered, the
tokens that are ahead, and the chain as it has been after every change. -/
structure Workspace (room : Nat) where
  chain : Chain
  within : chain.room ≤ room
  ahead : List Token
  moments : List Chain

abbrev Work (room : Nat) := EStateM Fault (Workspace room)

variable {room : Nat}

instance : Cursor (Work room) where
  hold tokens := modify fun workspace => { workspace with ahead := tokens }

namespace Workspace

/-- The workspace of the parser that evaluates the formula of a reference just entered. -/
def nested (outer : Workspace room) (inner : Chain) : Workspace inner.room :=
  ⟨inner, Nat.le_refl _, [], outer.moments ++ [inner]⟩

/-- The workspace as the nested evaluation leaves it, with its reference closed. -/
def resume {less : Nat} (smaller : less < room) (outer : Workspace room) (reference : String)
    (inner : Workspace less) : Workspace room :=
  let chain := inner.chain.close reference
  ⟨chain, Nat.le_trans (Chain.room_close _ _) (Nat.lt_of_le_of_lt inner.within smaller),
    outer.ahead, inner.moments ++ [chain]⟩

end Workspace

def holding (token : Token) (evaluation : (less : Nat) → less < room → Work less Value) :
    Work room Value := fun outer =>
  match opened : outer.chain.enter token.lexeme with
  | .error cause => .error (.formula (cause.at token.position)) outer
  | .ok inner =>
    have smaller := Nat.lt_of_lt_of_le (Chain.room_enter opened) outer.within
    match evaluation inner.room smaller (outer.nested inner) with
    | .ok value after => .ok value (outer.resume smaller token.lexeme after)
    | .error fault after => .error fault.elsewhere (outer.resume smaller token.lexeme after)

def evaluateAhead (follow : Allowance → Token → Work room Value) (allowance : Allowance) :
    Work room Value := do
  let reading ← comparison follow allowance (← get).ahead
  let next := current (← get).ahead
  if next.kind = .endOfInput then return reading.value
  else throw (.formula (.unexpected next))

/-- Follows a reference of the tokens, with evaluation of formulas as far as there is room. -/
def follow (accessor : Option Accessor)
    (evaluation : (less : Nat) → less < room → Allowance → String → Work less Value)
    (allowance : Allowance) (token : Token) : Work room Value := do
  let cell ← ofExcept <|
    (findCell accessor (← get).chain token.lexeme).mapError fun cause =>
      .formula (cause.at token.position)
  if cell.isFormula then
    holding token fun less smaller => do
      let left ← ofExcept (allowance.spend Allowance.reference)
      evaluation less smaller left cell.rawExpression
  else return cell.cachedValue

def evaluateText (accessor : Option Accessor) (room : Nat) (allowance : Allowance)
    (text : String) : Work room Value :=
  if isBlankFormula text then return .empty
  else do
    let tokens ← ofExcept ((Token.tokenize text (Token.bodyStart text)).mapError .formula)
    hold tokens
    evaluateAhead (follow accessor fun less _ => evaluateText accessor less) allowance
termination_by room

structure Evaluated where
  outcome : Outcome
  parser : Parser
  chain : Chain
  moments : List Chain

def workspace (parser : Parser) (chain : Chain) : Workspace chain.room :=
  ⟨chain, Nat.le_refl _, parser.ahead, []⟩

def evaluate (parser : Parser) (chain : Chain) (allowance : Allowance) (text : String) :
    Evaluated :=
  match evaluateText parser.accessor chain.room allowance text (parser.workspace chain) with
  | .ok value after => ⟨.ok value, { parser with ahead := after.ahead }, after.chain, after.moments⟩
  | .error fault after =>
    ⟨.error fault, { parser with ahead := after.ahead }, after.chain, after.moments⟩

end Parser
end FormulaGrid
