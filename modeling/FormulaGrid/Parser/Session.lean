import FormulaGrid.Formula.Check
import FormulaGrid.Parser.Basic

/-! Steps on a chain of open references that several parsers share: looking for cycles, entering and
leaving references by hand, and evaluating. -/
namespace FormulaGrid

structure Session where
  chain : Chain
  parsers : List Parser

namespace Session

def start (chain : Chain) (accessors : List (Option Accessor)) : Session :=
  ⟨chain, accessors.map Parser.fresh⟩

inductive Step where
  | check (reference : String)
  | enter (reference : String)
  | exit (reference : String)
  | evaluate (parser : Nat) (allowance : Allowance) (text : String)
  | validate (text : String)

/-- What a step answers. There may be nothing to leave and no such parser. The outcome of an
evaluation is the same whether its caller is given a fault or has it raised. -/
inductive Answer where
  | done
  | refused (cause : Cause)
  | nothing
  | outcome (outcome : Outcome)

def step (session : Session) : Step → Answer × Session
  | .check reference =>
    match session.chain.check reference with
    | .ok _ => (.done, session)
    | .error cause => (.refused cause, session)
  | .enter reference =>
    match session.chain.enter reference with
    | .ok inner => (.done, { session with chain := inner })
    | .error cause => (.refused cause, session)
  | .exit reference =>
    if reference ∈ session.chain.entered then
      (.done, { session with chain := session.chain.close reference })
    else (.nothing, session)
  | .evaluate index allowance text =>
    match session.parsers[index]? with
    | none => (.nothing, session)
    | some parser =>
      let evaluated := parser.evaluate session.chain allowance text
      (.outcome evaluated.outcome,
        ⟨evaluated.chain, session.parsers.set index evaluated.parser⟩)
  | .validate text => (.outcome (Formula.validate text), session)

def run (session : Session) : List Step → List (Step × Answer) × Session
  | [] => ([], session)
  | step :: steps =>
    let (answer, next) := session.step step
    let (log, last) := next.run steps
    ((step, answer) :: log, last)

/-- The references that are entered by hand and not left yet, after one more step. -/
def stillEntered (before : List String) : Step × Answer → List String
  | (.enter reference, .done) => before ++ [reference]
  | (.exit reference, .done) => before.erase reference
  | _ => before

end Session
end FormulaGrid
