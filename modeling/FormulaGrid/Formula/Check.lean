import FormulaGrid.Fault
import FormulaGrid.Formula.Pushdown
import FormulaGrid.Token.Lexer

/-! Checking a formula without evaluating it: its tokens must form a formula, and every call must
have as many arguments as its function takes. Of several wrong calls the most deeply nested one is
reported, and of those the first. -/
namespace FormulaGrid.Formula

/-- A call with a wrong number of arguments, and how deeply it is nested. -/
structure WrongCall where
  depth : Nat
  error : FormulaError

def wrongCall? (depth : Nat) (name : String) (position count : Nat) : Option WrongCall :=
  match checkArity name count with
  | .ok _ => none
  | .error cause => some ⟨depth, cause.at position⟩

mutual
def wrongCalls (depth : Nat) : Formula → List WrongCall
  | .number _ _ => []
  | .reference _ _ => []
  | .call name position arguments =>
    (wrongCall? depth name position arguments.length).toList ++
      wrongCallsAmong (depth + 1) arguments
  | .negation _ operand => wrongCalls (depth + 1) operand
  | .binary _ _ left right => wrongCalls (depth + 1) left ++ wrongCalls (depth + 1) right

def wrongCallsAmong (depth : Nat) : List Formula → List WrongCall
  | [] => []
  | formula :: formulas => wrongCalls depth formula ++ wrongCallsAmong depth formulas
end

/-- The first of the most deeply nested calls. -/
def deepest? : List WrongCall → Option WrongCall
  | [] => none
  | wrong :: others =>
    match deepest? others with
    | none => some wrong
    | some other => some (if wrong.depth < other.depth then other else wrong)

def checked (formula : Formula) : Except FormulaError Formula :=
  match deepest? (wrongCalls 0 formula) with
  | none => .ok formula
  | some wrong => .error wrong.error

def ofText? (text : String) : Except FormulaError (Option Formula) :=
  let start := Token.bodyStart text
  if text.length ≤ start then .ok none
  else do
    let tokens ← Token.tokenize text start
    let formula ← (← ofTokens tokens).checked
    return some formula

/-- Checks a text: true for a formula, and no value for a blank one. -/
def validate (text : String) : Outcome :=
  match ofText? text with
  | .ok none => .ok .empty
  | .ok (some _) => .ok (.boolean true)
  | .error error => .error (.formula error)

/-- Notes the name of a reference behind those that are noted already. -/
def note (noted : List String) : Formula → List String
  | .reference name _ => if name ∈ noted then noted else noted ++ [name]
  | _ => noted

/-- The references of a text, each once, in the order in which they first come. -/
def referencesOf (text : String) : Except FormulaError (List String) := do
  match ← ofText? text with
  | none => return []
  | some formula => return (subformulas [formula]).foldl note []

end FormulaGrid.Formula
