import FormulaGrid.Accessor
import FormulaGrid.Chain
import FormulaGrid.Evaluation.Descent
import FormulaGrid.Token.Lexer

/-! The value of a formula. A reference to a cell with a formula stands for the value of that
formula, evaluated within the chain of open references; every other cell has the value it shows.
Entering a reference leaves less room in the chain, so the evaluation ends whatever the cells
hold. -/
namespace FormulaGrid.Evaluation

def isBlankFormula (text : String) : Bool :=
  text.length ≤ Token.bodyStart text

def evaluateTokens (follow : Allowance → Token → Outcome) (allowance : Allowance)
    (tokens : List Token) : Outcome := do
  let reading ← comparison follow allowance tokens
  let next := current reading.rest
  if next.kind = .endOfInput then return reading.value
  else throw (.formula (.unexpected next))

def findCell (accessor : Option Accessor) (chain : Chain) (reference : String) :
    Except Cause Snapshot := do
  chain.check reference
  match accessor with
  | none => throw .noAccessor
  | some resolve =>
    match resolve reference with
    | none => throw (.cellNotFound reference)
    | some cell => return cell

def evaluateWithin (accessor : Option Accessor) (chain : Chain) (allowance : Allowance)
    (text : String) : Outcome :=
  if isBlankFormula text then .ok .empty
  else do
    let tokens ← (Token.tokenize text (Token.bodyStart text)).mapError .formula
    evaluateTokens
      (fun allowance token => do
        let cell ← (findCell accessor chain token.lexeme).mapError fun cause =>
          .formula (cause.at token.position)
        if !cell.isFormula then return cell.cachedValue
        match opened : chain.enter token.lexeme with
        | .error cause => throw (.formula (cause.at token.position))
        | .ok inner =>
          have := Chain.room_enter opened
          (evaluateWithin accessor inner (← allowance.spend Allowance.reference)
            cell.rawExpression).mapError Fault.elsewhere)
      allowance tokens
termination_by chain.room

def evaluate (accessor : Option Accessor) (chain : Chain) (text : String) : Outcome :=
  evaluateWithin accessor chain Allowance.standard text

end FormulaGrid.Evaluation
