import FormulaGrid.Evaluation.Basic
import FormulaGrid.Proofs.Failure

/-! The rules of the descent without the bounds by which they end: each returns what it read and the
tokens that are left. Every rule is stated once as an equation, and all else follows from these. -/
namespace FormulaGrid.Evaluation

open FormulaGrid.Failure

def bare {α : Type} {bound : Nat} (reading : Except Fault (Reading α Token bound)) :
    Except Fault (α × List Token) :=
  reading.map fun reading => (reading.value, reading.rest)

@[simp]
theorem bare_ok {α : Type} {bound : Nat} (reading : Reading α Token bound) :
    bare (.ok reading) = .ok (reading.value, reading.rest) :=
  rfl

@[simp]
theorem bare_error {α : Type} {bound : Nat} (fault : Fault) :
    bare (.error fault : Except Fault (Reading α Token bound)) = .error fault :=
  rfl

theorem bare_shorter {α : Type} {bound : Nat} {reading : Except Fault (Reading α Token bound)}
    {read : α × List Token} (done : bare reading = .ok read) : read.2.length < bound := by
  cases reading with
  | error fault => cases done
  | ok reading =>
    cases done
    exact reading.shorter

theorem ofExcept_eq {α : Type} (outcome : Except Fault α) :
    (ofExcept outcome : Except Fault α) = outcome := by
  cases outcome <;> rfl

theorem hold_eq (tokens : List Token) : (hold tokens : Except Fault Unit) = .ok () :=
  rfl

@[simp]
theorem spend_none (share : Nat) : Allowance.spend share none = .ok none :=
  rfl

namespace Bare

def expect (kind : TokenKind) (tokens : List Token) : Except Fault (Token × List Token) :=
  bare (Evaluation.expect kind tokens)

theorem expect_nil (kind : TokenKind) :
    expect kind [] = .error (.formula (.expected kind (Token.finish 0))) :=
  rfl

theorem expect_cons (kind : TokenKind) (token : Token) (rest : List Token) :
    expect kind (token :: rest) =
      if token.kind = kind then .ok (token, rest)
      else .error (.formula (.expected kind token)) := by
  rw [expect, Evaluation.expect]
  split <;> rfl

variable (follow : Allowance → Token → Outcome) (allowance : Allowance)

def comparison (tokens : List Token) : Except Fault (Value × List Token) :=
  bare (Evaluation.comparison follow allowance tokens)

def sum (tokens : List Token) : Except Fault (Value × List Token) :=
  bare (Evaluation.sum follow allowance tokens)

def addends (summed : Value) (tokens : List Token) : Except Fault (Value × List Token) :=
  bare (Evaluation.addends follow allowance summed tokens)

def product (tokens : List Token) : Except Fault (Value × List Token) :=
  bare (Evaluation.product follow allowance tokens)

def multipliers (multiplied : Value) (tokens : List Token) : Except Fault (Value × List Token) :=
  bare (Evaluation.multipliers follow allowance multiplied tokens)

def factor (tokens : List Token) : Except Fault (Value × List Token) :=
  bare (Evaluation.factor follow allowance tokens)

def argumentList (tokens : List Token) : Except Fault (List Value × List Token) :=
  bare (Evaluation.argumentList follow allowance tokens)

def moreArguments (tokens : List Token) : Except Fault (List Value × List Token) :=
  bare (Evaluation.moreArguments follow allowance tokens)

theorem comparison_eq (tokens : List Token) :
    comparison follow allowance tokens =
      sum follow allowance tokens >>= fun left =>
        match left.2 with
        | [] => .ok (left.1, [])
        | sign :: rest =>
          match sign.kind.comparison? with
          | none => .ok (left.1, sign :: rest)
          | some operator =>
            sum follow allowance rest >>= fun right =>
              operator.apply sign.position left.1 right.1 >>= fun value =>
                .ok (value, right.2) := by
  rw [comparison, Evaluation.comparison.eq_def, sum]
  cases Evaluation.sum follow allowance tokens with
  | error fault => rfl
  | ok left =>
    obtain ⟨value, rest, shorter⟩ := left
    simp only [ok_bind, bare_ok]
    cases rest with
    | nil => rfl
    | cons sign rest =>
      dsimp only
      cases sign.kind.comparison? with
      | none => rfl
      | some operator =>
        simp only [sum]
        cases Evaluation.sum follow allowance rest with
        | error fault => rfl
        | ok right =>
          simp only [ok_bind, bare_ok]
          cases operator.apply sign.position value right.value <;> rfl

theorem sum_eq (tokens : List Token) :
    sum follow allowance tokens =
      product follow allowance tokens >>= fun first =>
        addends follow allowance first.1 first.2 := by
  rw [sum, Evaluation.sum.eq_def, product]
  cases Evaluation.product follow allowance tokens with
  | error fault => rfl
  | ok first =>
    simp only [ok_bind, bare_ok, addends]
    cases Evaluation.addends follow allowance first.value first.rest <;> rfl

theorem addends_nil (summed : Value) : addends follow allowance summed [] = .ok (summed, []) := by
  rw [addends, Evaluation.addends.eq_def]
  rfl

theorem addends_cons (summed : Value) (sign : Token) (rest : List Token) :
    addends follow allowance summed (sign :: rest) =
      match sign.kind.sum? with
      | none => .ok (summed, sign :: rest)
      | some operator =>
        product follow allowance rest >>= fun right =>
          operator.apply sign.position summed right.1 >>= fun value =>
            addends follow allowance value right.2 := by
  rw [addends, Evaluation.addends.eq_def, product]
  dsimp only
  cases sign.kind.sum? with
  | none => rfl
  | some operator =>
    cases Evaluation.product follow allowance rest with
    | error fault => rfl
    | ok right =>
      simp only [hold_eq, ofExcept_eq, ok_bind, bare_ok]
      cases operator.apply sign.position summed right.value with
      | error fault => rfl
      | ok value =>
        simp only [ok_bind, addends]
        cases Evaluation.addends follow allowance value right.rest <;> rfl

theorem product_eq (tokens : List Token) :
    product follow allowance tokens =
      factor follow allowance tokens >>= fun first =>
        multipliers follow allowance first.1 first.2 := by
  rw [product, Evaluation.product.eq_def, factor]
  cases Evaluation.factor follow allowance tokens with
  | error fault => rfl
  | ok first =>
    simp only [ok_bind, bare_ok, multipliers]
    cases Evaluation.multipliers follow allowance first.value first.rest <;> rfl

theorem multipliers_nil (multiplied : Value) :
    multipliers follow allowance multiplied [] = .ok (multiplied, []) := by
  rw [multipliers, Evaluation.multipliers.eq_def]
  rfl

theorem multipliers_cons (multiplied : Value) (sign : Token) (rest : List Token) :
    multipliers follow allowance multiplied (sign :: rest) =
      match sign.kind.product? with
      | none => .ok (multiplied, sign :: rest)
      | some operator =>
        factor follow allowance rest >>= fun right =>
          operator.apply sign.position multiplied right.1 >>= fun value =>
            multipliers follow allowance value right.2 := by
  rw [multipliers, Evaluation.multipliers.eq_def, factor]
  dsimp only
  cases sign.kind.product? with
  | none => rfl
  | some operator =>
    cases Evaluation.factor follow allowance rest with
    | error fault => rfl
    | ok right =>
      simp only [hold_eq, ofExcept_eq, ok_bind, bare_ok]
      cases operator.apply sign.position multiplied right.value with
      | error fault => rfl
      | ok value =>
        simp only [ok_bind, multipliers]
        cases Evaluation.multipliers follow allowance value right.rest <;> rfl

theorem factor_nil :
    factor follow allowance [] = .error (.formula (.unexpected (Token.finish 0))) := by
  rw [factor, Evaluation.factor.eq_def]
  rfl

theorem factor_cons (token : Token) (rest : List Token) :
    factor follow allowance (token :: rest) =
      match token.kind with
      | .number => .ok (numeralValue token.lexeme, rest)
      | .cellReference => follow allowance token >>= fun value => .ok (value, rest)
      | .function =>
        expect .leftParen rest >>= fun opened =>
          allowance.spend Allowance.call >>= fun inner =>
            argumentList follow inner opened.2 >>= fun arguments =>
              callFunction token.lexeme arguments.1 (some token.position) >>= fun value =>
                .ok (value, arguments.2)
      | .not =>
        allowance.spend Allowance.negation >>= fun inner =>
          factor follow inner rest >>= fun operand =>
            negate operand.1 >>= fun value => .ok (value, operand.2)
      | .leftParen =>
        allowance.spend Allowance.bracket >>= fun inner =>
          comparison follow inner rest >>= fun read =>
            expect .rightParen read.2 >>= fun closed => .ok (read.1, closed.2)
      | _ => .error (.formula (.unexpected token)) := by
  rw [factor, Evaluation.factor.eq_def]
  dsimp only
  cases token.kind with
  | cellReference => cases follow allowance token <;> rfl
  | function =>
    dsimp only [expect]
    cases (Evaluation.expect .leftParen rest : Except Fault _) with
    | error fault => rfl
    | ok opened =>
      simp only [hold_eq, ofExcept_eq, ok_bind, bare_ok]
      cases allowance.spend Allowance.call with
      | error fault => rfl
      | ok inner =>
        simp only [ok_bind, argumentList]
        cases Evaluation.argumentList follow inner opened.rest with
        | error fault => rfl
        | ok arguments =>
          simp only [ok_bind, bare_ok]
          cases callFunction token.lexeme arguments.value (some token.position) <;> rfl
  | not =>
    dsimp only
    cases allowance.spend Allowance.negation with
    | error fault => rfl
    | ok inner =>
      simp only [hold_eq, ofExcept_eq, ok_bind, factor]
      cases Evaluation.factor follow inner rest with
      | error fault => rfl
      | ok operand =>
        simp only [ok_bind, bare_ok]
        cases negate operand.value <;> rfl
  | leftParen =>
    dsimp only
    cases allowance.spend Allowance.bracket with
    | error fault => rfl
    | ok inner =>
      simp only [hold_eq, ofExcept_eq, ok_bind, comparison]
      cases Evaluation.comparison follow inner rest with
      | error fault => rfl
      | ok read =>
        simp only [ok_bind, bare_ok, expect]
        cases (Evaluation.expect .rightParen read.rest : Except Fault _) <;> rfl
  | _ => rfl

theorem argumentList_nil :
    argumentList follow allowance [] =
      comparison follow allowance [] >>= fun first => .ok ([first.1], []) := by
  rw [argumentList, Evaluation.argumentList.eq_def, comparison]
  cases Evaluation.comparison follow allowance [] <;> rfl

theorem argumentList_cons (token : Token) (rest : List Token) :
    argumentList follow allowance (token :: rest) =
      if token.kind = .rightParen then .ok ([], rest)
      else
        comparison follow allowance (token :: rest) >>= fun first =>
          moreArguments follow allowance first.2 >>= fun others =>
            .ok (first.1 :: others.1, others.2) := by
  rw [argumentList, Evaluation.argumentList.eq_def, comparison]
  dsimp only
  split
  · rfl
  · cases Evaluation.comparison follow allowance (token :: rest) with
    | error fault => rfl
    | ok first =>
      simp only [ok_bind, bare_ok, moreArguments]
      cases Evaluation.moreArguments follow allowance first.rest <;> rfl

theorem moreArguments_nil :
    moreArguments follow allowance [] =
      .error (.formula (.expected .rightParen (Token.finish 0))) := by
  rw [moreArguments, Evaluation.moreArguments.eq_def]
  rfl

theorem moreArguments_cons (token : Token) (rest : List Token) :
    moreArguments follow allowance (token :: rest) =
      if token.kind = .comma then
        comparison follow allowance rest >>= fun next =>
          moreArguments follow allowance next.2 >>= fun others =>
            .ok (next.1 :: others.1, others.2)
      else if token.kind = .rightParen then .ok ([], rest)
      else .error (.formula (.expected .rightParen token)) := by
  rw [moreArguments, Evaluation.moreArguments.eq_def, comparison]
  dsimp only
  split
  · cases Evaluation.comparison follow allowance rest with
    | error fault => rfl
    | ok next =>
      simp only [hold_eq, ok_bind, bare_ok, moreArguments]
      cases Evaluation.moreArguments follow allowance next.rest <;> rfl
  · rw [Evaluation.expect]
    split <;> rfl

theorem multipliers_settled (multiplied : Value) {rest : List Token}
    (settled : (current rest).kind.product? = none) :
    multipliers follow allowance multiplied rest = .ok (multiplied, rest) := by
  cases rest with
  | nil => exact multipliers_nil follow allowance multiplied
  | cons sign rest =>
    rw [current] at settled
    rw [multipliers_cons, settled]

theorem addends_settled (summed : Value) {rest : List Token}
    (settled : (current rest).kind.sum? = none) :
    addends follow allowance summed rest = .ok (summed, rest) := by
  cases rest with
  | nil => exact addends_nil follow allowance summed
  | cons sign rest =>
    rw [current] at settled
    rw [addends_cons, settled]

end Bare

theorem evaluateTokens_eq (follow : Allowance → Token → Outcome) (allowance : Allowance)
    (tokens : List Token) :
    evaluateTokens follow allowance tokens =
      Bare.comparison follow allowance tokens >>= fun read =>
        if (current read.2).kind = .endOfInput then .ok read.1
        else .error (.formula (.unexpected (current read.2))) := by
  rw [evaluateTokens, Bare.comparison]
  cases comparison follow allowance tokens with
  | error fault => rfl
  | ok reading =>
    simp only [ok_bind, bare_ok]
    split <;> rfl

end FormulaGrid.Evaluation
