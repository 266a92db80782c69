import FormulaGrid.Proofs.Descent.Alike

/-! What a reference stands for, as a rule of its own. -/
namespace FormulaGrid.Evaluation

open FormulaGrid.Failure

/-- The value of a reference within a chain of open references: what its cell shows, or the value of
its cell's formula with the reference open as well. -/
def referenceValue (accessor : Option Accessor) (chain : Chain) (allowance : Allowance)
    (token : Token) : Outcome := do
  let cell ← (findCell accessor chain token.lexeme).mapError fun cause =>
    Fault.formula (cause.at token.position)
  if cell.isFormula then
    let inner ← (chain.enter token.lexeme).mapError fun cause =>
      Fault.formula (cause.at token.position)
    let left ← allowance.spend Allowance.reference
    (evaluateWithin accessor inner left cell.rawExpression).mapError Fault.elsewhere
  else return cell.cachedValue

theorem evaluateWithin_eq (accessor : Option Accessor) (chain : Chain) (allowance : Allowance)
    (text : String) :
    evaluateWithin accessor chain allowance text =
      if isBlankFormula text then .ok .empty
      else (Token.tokenize text (Token.bodyStart text)).mapError Fault.formula >>=
        evaluateTokens (referenceValue accessor chain) allowance := by
  rw [evaluateWithin.eq_def]
  split
  · rfl
  · congr 1
    funext tokens
    congr 1
    funext allowance token
    rw [referenceValue]
    cases findCell accessor chain token.lexeme with
    | error cause => rfl
    | ok cell =>
      simp only [mapError_ok, ok_bind]
      cases cell.isFormula with
      | false => rfl
      | true =>
        simp only [Bool.not_true, Bool.false_eq_true, if_false, if_true]
        split
        next cause opened =>
          rw [opened]
          rfl
        next inner opened =>
          rw [opened]
          rfl

theorem findCell_ok_iff {accessor : Option Accessor} {chain : Chain} {reference : String}
    {cell : Snapshot} :
    findCell accessor chain reference = .ok cell ↔
      reference ∉ chain.references ∧ accessor.bind (· reference) = some cell := by
  unfold findCell Chain.check
  by_cases present : reference ∈ chain.references
  · simp [present]
  · rw [if_neg present, ok_bind]
    cases accessor with
    | none => simp [throw, throwThe, MonadExceptOf.throw]
    | some resolve =>
      cases found : resolve reference with
      | none => simp [found, throw, throwThe, MonadExceptOf.throw]
      | some other => simp [found, present, pure, Except.pure]

theorem findCell_open (accessor : Option Accessor) {chain : Chain} {reference : String}
    (member : reference ∈ chain.references) :
    findCell accessor chain reference = .error (.cycle (chain.references ++ [reference])) := by
  unfold findCell Chain.check
  rw [if_pos member]
  rfl

theorem findCell_error_code {accessor : Option Accessor} {chain : Chain} {reference : String}
    {cause : Cause} (failed : findCell accessor chain reference = .error cause) :
    cause.code = "ref_error" ∨ cause.code = "cyclic_reference" := by
  unfold findCell Chain.check at failed
  split at failed
  · cases failed
    exact .inr rfl
  · rw [ok_bind] at failed
    split at failed
    · cases failed
      exact .inl rfl
    · split at failed <;> cases failed
      exact .inl rfl

end FormulaGrid.Evaluation
