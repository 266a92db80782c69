import FormulaGrid.Proofs.Parallel

/-! Why evaluation ends. Here evaluation is written down once more without the bounds that its
readings carry, and is cut off wherever it would not get smaller. Within one text there must be
fewer tokens left each time a factor is entered from within another one and each time a loop has
been run through. To follow a reference there must be less room left in the chain, and formulas may
be nested to a given depth only. If this is as much as the room in the chain, evaluation is never
cut off. -/
namespace FormulaGrid.Evaluation.Measured

open FormulaGrid.Failure

/-- A computation that comes to an outcome unless it is cut off. -/
abbrev Run := ExceptT Fault Option

section Runs

variable {α β : Type}

def cutOff : Run α :=
  ExceptT.mk none

def ended (outcome : Except Fault α) : Run α :=
  ExceptT.mk (some outcome)

theorem ended_bind {first : Except Fault α} {next : α → Except Fault β} {run : α → Run β}
    (same : ∀ a, first = .ok a → run a = ended (next a)) :
    (ended first >>= run) = ended (first >>= next) := by
  cases first with
  | error fault => rfl
  | ok a => exact same a rfl

end Runs

abbrev Rule (α : Type) := List Token → Run (α × List Token)

section Rules

/-- Reads on as long as operators of one rank follow. -/
def repeated (operator? : TokenKind → Option Operator) (operand : Rule Value) (value : Value) :
    Rule Value
  | [] => ended (.ok (value, []))
  | sign :: rest =>
    match operator? sign.kind with
    | none => ended (.ok (value, sign :: rest))
    | some operator => do
      let right ← operand rest
      let value ← ended (operator.apply sign.position value right.1)
      if right.2.length < (sign :: rest).length then
        repeated operator? operand value right.2
      else cutOff
termination_by tokens => tokens.length
decreasing_by assumption

def product (factor : Rule Value) : Rule Value := fun tokens => do
  let first ← factor tokens
  repeated TokenKind.product? factor first.1 first.2

def sum (factor : Rule Value) : Rule Value := fun tokens => do
  let first ← product factor tokens
  repeated TokenKind.sum? (product factor) first.1 first.2

def comparison (factor : Rule Value) : Rule Value := fun tokens => do
  let left ← sum factor tokens
  match left.2 with
  | [] => ended (.ok (left.1, []))
  | sign :: rest =>
    match sign.kind.comparison? with
    | none => ended (.ok (left.1, sign :: rest))
    | some operator =>
      let right ← sum factor rest
      let value ← ended (operator.apply sign.position left.1 right.1)
      ended (.ok (value, right.2))

def moreArguments (argument : Rule Value) : Rule (List Value)
  | [] => ended (Bare.expect .rightParen [] >>= fun closed => .ok ([], closed.2))
  | token :: rest =>
    if token.kind = .comma then do
      let next ← argument rest
      if next.2.length < (token :: rest).length then
        let others ← moreArguments argument next.2
        ended (.ok (next.1 :: others.1, others.2))
      else cutOff
    else ended (Bare.expect .rightParen (token :: rest) >>= fun closed => .ok ([], closed.2))
termination_by tokens => tokens.length
decreasing_by assumption

def argumentList (argument : Rule Value) : Rule (List Value) := fun tokens => do
  if (current tokens).kind = .rightParen then ended (.ok ([], tokens.tail))
  else
    let first ← argument tokens
    let others ← moreArguments argument first.2
    ended (.ok (first.1 :: others.1, others.2))

/-- A factor. Whatever it is made of must be read from fewer tokens. -/
def factor (follow : Token → Run Value) : Rule Value
  | [] => ended (.error (.formula (.unexpected (current []))))
  | token :: rest =>
    let inner : Rule Value := fun fewer =>
      if fewer.length < (token :: rest).length then factor follow fewer else cutOff
    match token.kind with
    | .number => ended (.ok (numeralValue token.lexeme, rest))
    | .cellReference => do
      let value ← follow token
      ended (.ok (value, rest))
    | .function => do
      let opened ← ended (Bare.expect .leftParen rest)
      let arguments ← argumentList (comparison inner) opened.2
      let value ← ended (callFunction token.lexeme arguments.1 (some token.position))
      ended (.ok (value, arguments.2))
    | .not => do
      let operand ← inner rest
      let value ← ended (negate operand.1)
      ended (.ok (value, operand.2))
    | .leftParen => do
      let read ← comparison inner rest
      let closed ← ended (Bare.expect .rightParen read.2)
      ended (.ok (read.1, closed.2))
    | _ => ended (.error (.formula (.unexpected token)))
termination_by tokens => tokens.length
decreasing_by assumption

end Rules

/-- What a reference stands for. The formula to which it leads must have less room in its chain. -/
def referenceValue (accessor : Option Accessor) (nested : Chain → String → Run Value)
    (chain : Chain) (token : Token) : Run Value := do
  let cell ← ended (placed token (findCell accessor chain token.lexeme))
  if cell.isFormula then
    let inner ← ended (placed token (chain.enter token.lexeme))
    if inner.room < chain.room then
      ExceptT.adapt Fault.elsewhere (nested inner cell.rawExpression)
    else cutOff
  else ended (.ok cell.cachedValue)

def formulaValue (accessor : Option Accessor) (nested : Chain → String → Run Value)
    (chain : Chain) (text : String) : Run Value :=
  if isBlankFormula text then ended (.ok .empty)
  else do
    let tokens ← ended ((Token.tokenize text (Token.bodyStart text)).mapError Fault.formula)
    let read ← comparison (factor (referenceValue accessor nested chain)) tokens
    ended (if (current read.2).kind = .endOfInput then .ok read.1
      else .error (.formula (.unexpected (current read.2))))

/-- The value of a formula, in which formulas may be nested to a given depth. -/
def evaluate (accessor : Option Accessor) : Nat → Chain → String → Run Value
  | 0 => formulaValue accessor fun _ _ => cutOff
  | depth + 1 => formulaValue accessor (evaluate accessor depth)

section Ending

/-- Whether a rule is never cut off and reads what another one reads, on few enough tokens. -/
def Ends {α : Type} (bound : Nat) (rule : Rule α)
    (reader : List Token → Except Fault (α × List Token)) : Prop :=
  ∀ tokens, tokens.length < bound → rule tokens = ended (reader tokens)

variable {bound : Nat} {follow : Allowance → Token → Outcome} {rule : Rule Value}

theorem repeated_ends {operator? : TokenKind → Option Operator}
    {reader : List Token → Except Fault (Value × List Token)}
    {loop : Value → List Token → Except Fault (Value × List Token)}
    (ends : Ends bound rule reader)
    (shorter : ∀ tokens read, reader tokens = .ok read → read.2.length < tokens.length)
    (nil : ∀ value, loop value [] = .ok (value, []))
    (cons : ∀ value sign rest, loop value (sign :: rest) =
      match operator? sign.kind with
      | none => .ok (value, sign :: rest)
      | some operator => reader rest >>= fun right =>
          operator.apply sign.position value right.1 >>= fun value => loop value right.2)
    (value : Value) : Ends bound (repeated operator? rule value) (loop value) := by
  intro tokens few
  -- Each turn takes its operator, so fewer tokens are left for the next one.
  induction length : tokens.length using Nat.strongRecOn generalizing tokens value with
  | ind length ih =>
    cases tokens with
    | nil => rw [repeated, nil]
    | cons sign rest =>
      rw [List.length_cons] at few length
      rw [repeated, cons]
      cases operator? sign.kind with
      | none => rfl
      | some operator =>
        dsimp only
        rw [ends rest (by omega)]
        refine ended_bind fun right read => ended_bind fun value _ => ?_
        have less := shorter rest right read
        rw [if_pos (by rw [List.length_cons]; omega)]
        exact ih right.2.length (by omega) value right.2 (by omega) rfl

theorem product_ends (ends : Ends bound rule (Bare.factor follow none)) :
    Ends bound (product rule) (Bare.product follow none) := by
  intro tokens few
  rw [product, ends tokens few, Bare.product_eq]
  refine ended_bind fun first read => ?_
  have less : first.2.length < tokens.length := bare_shorter read
  exact repeated_ends ends (fun _ _ => bare_shorter) (Bare.multipliers_nil follow none)
    (Bare.multipliers_cons follow none) first.1 first.2 (by omega)

theorem sum_ends (ends : Ends bound rule (Bare.factor follow none)) :
    Ends bound (sum rule) (Bare.sum follow none) := by
  intro tokens few
  have operands := product_ends ends
  rw [sum, operands tokens few, Bare.sum_eq]
  refine ended_bind fun first read => ?_
  have less : first.2.length < tokens.length := bare_shorter read
  exact repeated_ends operands (fun _ _ => bare_shorter) (Bare.addends_nil follow none)
    (Bare.addends_cons follow none) first.1 first.2 (by omega)

theorem comparison_ends (ends : Ends bound rule (Bare.factor follow none)) :
    Ends bound (comparison rule) (Bare.comparison follow none) := by
  intro tokens few
  have sides := sum_ends ends
  rw [comparison, sides tokens few, Bare.comparison_eq]
  refine ended_bind fun left read => ?_
  have less : left.2.length < tokens.length := bare_shorter read
  obtain ⟨value, rest⟩ := left
  cases rest with
  | nil => rfl
  | cons sign rest =>
    rw [List.length_cons] at less
    dsimp only
    cases sign.kind.comparison? with
    | none => rfl
    | some operator =>
      dsimp only
      rw [sides rest (by omega)]
      exact ended_bind fun right _ => ended_bind fun value _ => rfl

theorem moreArguments_ends (ends : Ends bound rule (Bare.comparison follow none)) :
    Ends bound (moreArguments rule) (Bare.moreArguments follow none) := by
  intro tokens few
  induction length : tokens.length using Nat.strongRecOn generalizing tokens with
  | ind length ih =>
    cases tokens with
    | nil =>
      rw [moreArguments, Bare.moreArguments_nil, Bare.expect_nil]
      rfl
    | cons token rest =>
      rw [List.length_cons] at few length
      rw [moreArguments, Bare.moreArguments_cons]
      split
      next comma =>
        rw [ends rest (by omega)]
        refine ended_bind fun next read => ?_
        have less : next.2.length < rest.length := bare_shorter read
        rw [if_pos (by rw [List.length_cons]; omega),
          ih next.2.length (by omega) next.2 (by omega) rfl]
        exact ended_bind fun others _ => rfl
      next =>
        rw [Bare.expect_cons]
        split <;> rfl

theorem argumentList_ends (ends : Ends bound rule (Bare.comparison follow none)) :
    Ends bound (argumentList rule) (Bare.argumentList follow none) := by
  intro tokens few
  cases tokens with
  | nil =>
    have other : ¬ (current []).kind = .rightParen := by decide
    rw [argumentList, if_neg other, ends [] few, Bare.argumentList_nil]
    exact ended_bind fun first read => absurd (bare_shorter read) (Nat.not_lt_zero _)
  | cons token rest =>
    rw [argumentList, Bare.argumentList_cons, current]
    split
    · rfl
    · rw [ends _ few]
      refine ended_bind fun first read => ?_
      have less : first.2.length < (token :: rest).length := bare_shorter read
      rw [moreArguments_ends ends first.2 (by omega)]
      exact ended_bind fun others _ => rfl

theorem factor_ends {run : Token → Run Value} (ends : ∀ token, run token = ended (follow none token))
    (tokens : List Token) : factor run tokens = ended (Bare.factor follow none tokens) := by
  induction length : tokens.length using Nat.strongRecOn generalizing tokens with
  | ind length ih =>
    cases tokens with
    | nil => rw [factor, Bare.factor_nil]; rfl
    | cons token rest =>
      subst length
      have less : rest.length < (token :: rest).length := Nat.lt_succ_self _
      have inner : Ends (token :: rest).length
          (fun fewer => if fewer.length < (token :: rest).length then factor run fewer else cutOff)
          (Bare.factor follow none) :=
        fun fewer few => (if_pos few).trans (ih fewer.length few fewer rfl)
      -- Whatever stands in brackets or after a sign is entered with fewer tokens.
      have brackets := comparison_ends inner
      rw [factor, Bare.factor_cons]
      dsimp only
      cases token.kind with
      | cellReference =>
        dsimp only
        rw [ends token]
        exact ended_bind fun value _ => rfl
      | function =>
        refine ended_bind fun opened read => ?_
        have shorter : opened.2.length < rest.length := bare_shorter read
        rw [spend_none, ok_bind, argumentList_ends brackets opened.2 (by omega)]
        exact ended_bind fun arguments _ => ended_bind fun value _ => rfl
      | not =>
        dsimp only
        rw [spend_none, ok_bind, if_pos less, ih rest.length less rest rfl]
        exact ended_bind fun operand _ => ended_bind fun value _ => rfl
      | leftParen =>
        dsimp only
        rw [spend_none, ok_bind, brackets rest less]
        exact ended_bind fun read _ => ended_bind fun closed _ => rfl
      | _ => rfl

/-- A reference ends if all formulas do to which it may lead. -/
theorem referenceValue_ends {accessor : Option Accessor} {nested : Chain → String → Run Value}
    {chain : Chain}
    (ends : ∀ inner text, inner.room < chain.room →
      nested inner text = ended (evaluateWithin accessor inner none text)) (token : Token) :
    referenceValue accessor nested chain token =
      ended (Evaluation.referenceValue accessor chain none token) := by
  rw [referenceValue, Evaluation.referenceValue]
  refine ended_bind fun cell _ => ?_
  split
  · refine ended_bind fun inner entered => ?_
    have less := Chain.room_enter (mapError_eq_ok.1 entered)
    rw [if_pos less, ends inner _ less]
    rfl
  · rfl

theorem formulaValue_ends {accessor : Option Accessor} {nested : Chain → String → Run Value}
    {chain : Chain}
    (ends : ∀ inner text, inner.room < chain.room →
      nested inner text = ended (evaluateWithin accessor inner none text)) (text : String) :
    formulaValue accessor nested chain text =
      ended (evaluateWithin accessor chain none text) := by
  rw [formulaValue, evaluateWithin_eq]
  split
  · rfl
  · refine ended_bind fun tokens _ => ?_
    have factors : Ends (tokens.length + 1) (factor (referenceValue accessor nested chain))
        (Bare.factor (Evaluation.referenceValue accessor chain) none) :=
      fun tokens _ => factor_ends (referenceValue_ends ends) tokens
    rw [comparison_ends factors tokens (Nat.lt_succ_self _), evaluateTokens_eq]
    exact ended_bind fun read _ => rfl

/-- Evaluation without a limit to nesting is never cut off and so comes to its outcome, whatever the
cells hold, if formulas may be nested as deeply as there is room in the chain. -/
theorem evaluate_ends (accessor : Option Accessor) {depth : Nat} {chain : Chain}
    (enough : chain.room ≤ depth) (text : String) :
    evaluate accessor depth chain text = ended (evaluateWithin accessor chain none text) := by
  -- Where a reference is followed both the room and the depth go down.
  induction depth generalizing chain text with
  | zero => exact formulaValue_ends (fun inner text less => absurd less (by omega)) text
  | succ depth ih =>
    exact formulaValue_ends (fun inner text less => ih (by omega) text) text

theorem evaluate_ends_cyclic :
    let cells : Accessor := fun name =>
      some ⟨name, if name = "A1" then "=B1" else "=A1", .empty⟩
    let chain := Chain.start none 2 (by decide)
    chain.room ≤ 2 ∧ evaluate (some cells) 2 chain "A1" =
      ended (.error (.formula ⟨.cycle ["A1", "B1", "A1"], none⟩)) := by
  intro cells chain
  have enough : chain.room ≤ 2 := by decide
  have evaluated : evaluateWithin (some cells) (Chain.start none 2 (by decide)) none "A1" =
      .error (.formula ⟨.cycle ["A1", "B1", "A1"], none⟩) := by cbv
  exact ⟨enough, (evaluate_ends (some cells) enough "A1").trans (congrArg ended evaluated)⟩

end Ending

end FormulaGrid.Evaluation.Measured
