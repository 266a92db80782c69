import FormulaGrid.Evaluation.Allowance
import FormulaGrid.Operator
import FormulaGrid.Reading

/-! Evaluation of tokens as they are read, by recursive descent: a comparison of at most two sums,
sums of products, products of factors, left to right. A factor is a number, a reference, a function
call, a negated factor, or a comparison in brackets. Every step leaves fewer tokens. The descent
runs wherever faults can be thrown: for the value alone, or by a parser that holds its tokens. -/
namespace FormulaGrid.Evaluation

def current : List Token → Token
  | [] => Token.finish 0
  | token :: _ => token

/-- Where a descent can put the tokens that are still ahead each time it has taken one. -/
class Cursor (m : Type → Type) where
  hold (tokens : List Token) : m Unit

export Cursor (hold)

instance : Cursor (Except Fault) where
  hold _ := .ok ()

def numeralValue (numeral : String) : Value :=
  .number (.ofNat (Text.valueOfDigits (numeral.toList.filterMap Text.decimalDigit?)))

def negate (value : Value) : Outcome :=
  return .boolean !(← value.toBoolean.mapError .numeric)

variable {m : Type → Type} [Monad m] [MonadExceptOf Fault m] [Cursor m]

def expect (kind : TokenKind) : (tokens : List Token) → m (Reading Token Token tokens.length)
  | [] => throw (.formula (.expected kind (current [])))
  | token :: rest =>
    if token.kind = kind then do
      hold rest
      return ⟨token, rest, Nat.lt_succ_self _⟩
    else throw (.formula (.expected kind token))

variable (follow : Allowance → Token → m Value)

mutual
def comparison (allowance : Allowance) (tokens : List Token) :
    m (Reading Value Token tokens.length) := do
  let left ← sum allowance tokens
  match shape : left.rest with
  | [] => return left
  | sign :: rest =>
    match sign.kind.comparison? with
    | none => return left
    | some operator =>
      have bound := left.shorter
      have := congrArg List.length shape
      have inside : rest.length < tokens.length := by simp at this; omega
      hold rest
      let right ← sum allowance rest
      let value ← ofExcept (operator.apply sign.position left.value right.value)
      return ⟨value, right.rest, Nat.lt_trans right.shorter inside⟩
termination_by (tokens.length, 3)

def sum (allowance : Allowance) (tokens : List Token) :
    m (Reading Value Token tokens.length) := do
  let first ← product allowance tokens
  have := first.shorter
  let all ← addends allowance first.value first.rest
  return all.within first.shorter
termination_by (tokens.length, 2)

def addends (allowance : Allowance) (summed : Value) (tokens : List Token) :
    m (Reading Value Token (tokens.length + 1)) :=
  match tokens with
  | [] => return ⟨summed, [], Nat.lt_succ_self _⟩
  | sign :: rest =>
    match sign.kind.sum? with
    | none => return ⟨summed, sign :: rest, Nat.lt_succ_self _⟩
    | some operator => do
      hold rest
      let right ← product allowance rest
      have := right.shorter
      let value ← ofExcept (operator.apply sign.position summed right.value)
      let all ← addends allowance value right.rest
      return all.within (by simp; omega)
termination_by (tokens.length, 0)

def product (allowance : Allowance) (tokens : List Token) :
    m (Reading Value Token tokens.length) := do
  let first ← factor allowance tokens
  have := first.shorter
  let all ← multipliers allowance first.value first.rest
  return all.within first.shorter
termination_by (tokens.length, 1)

def multipliers (allowance : Allowance) (multiplied : Value) (tokens : List Token) :
    m (Reading Value Token (tokens.length + 1)) :=
  match tokens with
  | [] => return ⟨multiplied, [], Nat.lt_succ_self _⟩
  | sign :: rest =>
    match sign.kind.product? with
    | none => return ⟨multiplied, sign :: rest, Nat.lt_succ_self _⟩
    | some operator => do
      hold rest
      let right ← factor allowance rest
      have := right.shorter
      let value ← ofExcept (operator.apply sign.position multiplied right.value)
      let all ← multipliers allowance value right.rest
      return all.within (by simp; omega)
termination_by (tokens.length, 0)

def factor (allowance : Allowance) (tokens : List Token) :
    m (Reading Value Token tokens.length) :=
  match tokens with
  | [] => throw (.formula (.unexpected (current [])))
  | token :: rest =>
    match token.kind with
    | .number => do
      hold rest
      return ⟨numeralValue token.lexeme, rest, Nat.lt_succ_self _⟩
    | .cellReference => do
      hold rest
      let value ← follow allowance token
      return ⟨value, rest, Nat.lt_succ_self _⟩
    | .function => do
      hold rest
      let opened ← expect .leftParen rest
      have := opened.shorter
      let arguments ← argumentList (← ofExcept (allowance.spend Allowance.call)) opened.rest
      have := arguments.shorter
      let value ← ofExcept (callFunction token.lexeme arguments.value (some token.position))
      return ⟨value, arguments.rest, by simp; omega⟩
    | .not => do
      hold rest
      let operand ← factor (← ofExcept (allowance.spend Allowance.negation)) rest
      let value ← ofExcept (negate operand.value)
      return ⟨value, operand.rest, Nat.lt_succ_of_lt operand.shorter⟩
    | .leftParen => do
      hold rest
      let inner ← comparison (← ofExcept (allowance.spend Allowance.bracket)) rest
      have := inner.shorter
      let closed ← expect .rightParen inner.rest
      have := closed.shorter
      return ⟨inner.value, closed.rest, by simp; omega⟩
    | _ => throw (.formula (.unexpected token))
termination_by (tokens.length, 0)

def argumentList (allowance : Allowance) (tokens : List Token) :
    m (Reading (List Value) Token tokens.length) :=
  match tokens with
  | [] => do
    let first ← comparison allowance []
    return ⟨[first.value], [], absurd first.shorter (Nat.not_lt_zero _)⟩
  | token :: rest =>
    if token.kind = .rightParen then do
      hold rest
      return ⟨[], rest, Nat.lt_succ_self _⟩
    else do
      let first ← comparison allowance (token :: rest)
      have := first.shorter
      let others ← moreArguments allowance first.rest
      have := others.shorter
      return ⟨first.value :: others.value, others.rest, by omega⟩
termination_by (tokens.length, 4)

def moreArguments (allowance : Allowance) (tokens : List Token) :
    m (Reading (List Value) Token tokens.length) :=
  match tokens with
  | [] => throw (.formula (.expected .rightParen (current [])))
  | token :: rest =>
    if token.kind = .comma then do
      hold rest
      let next ← comparison allowance rest
      have := next.shorter
      let others ← moreArguments allowance next.rest
      have := others.shorter
      return ⟨next.value :: others.value, others.rest, by simp; omega⟩
    else do
      let closed ← expect .rightParen (token :: rest)
      return ⟨[], closed.rest, closed.shorter⟩
termination_by (tokens.length, 4)
end

end FormulaGrid.Evaluation
