import FormulaGrid.Proofs.Agreement
import FormulaGrid.Proofs.Rendering

/-! How much of their allowance formulas take. A text that is nothing but a reference takes what the
reference takes, and comes to what it stands for; negations in front of a number take one share
each, and with fewer shares left there is no value. -/
namespace FormulaGrid

open FormulaGrid.Failure FormulaGrid.Text

def negated : Nat → List Char
  | 0 => ['1']
  | n + 1 => "not".toList ++ ' ' :: negated n

def negatedText (n : Nat) : String :=
  String.ofList ('=' :: negated n)

namespace Evaluation
open FormulaGrid.Grammar FormulaGrid.Token

section Factors

variable (follow : Allowance → Token → Outcome) (allowance : Allowance) {tokens : List Token}
  {reference mark : Token} {v : Value} {fault : Fault}

/-- A text that is nothing but a factor has the value of the factor. -/
theorem evaluateTokens_factor (ended : mark.kind = .endOfInput)
    (read : Bare.factor follow allowance tokens = .ok (v, [mark])) :
    evaluateTokens follow allowance tokens = .ok v := by
  obtain ⟨noProduct, noSum, noComparison⟩ := settled_of_kind ended (by decide) []
  rw [current] at noComparison
  rw [evaluateTokens_eq, Bare.comparison_eq, Bare.sum_eq, Bare.product_eq, read, ok_bind,
    Bare.multipliers_settled _ _ _ noProduct, ok_bind, Bare.addends_settled _ _ _ noSum, ok_bind]
  dsimp only
  rw [noComparison]
  simp only [ok_bind, current, ended, if_true]

theorem evaluateTokens_factor_error (failed : Bare.factor follow allowance tokens = .error fault) :
    evaluateTokens follow allowance tokens = .error fault := by
  rw [evaluateTokens_eq, Bare.comparison_eq, Bare.sum_eq, Bare.product_eq, failed]
  rfl

theorem evaluateTokens_reference (refers : reference.kind = .cellReference)
    (ended : mark.kind = .endOfInput) :
    evaluateTokens follow allowance [reference, mark] = follow allowance reference := by
  have read := Bare.factor_cons follow allowance reference [mark]
  rw [refers] at read
  cases followed : follow allowance reference with
  | error fault =>
    rw [followed] at read
    exact evaluateTokens_factor_error follow allowance read
  | ok v =>
    rw [followed] at read
    exact evaluateTokens_factor follow allowance ended read

end Factors

section References

variable {accessor : Option Accessor} {chain inner : Chain} {allowance left : Allowance}
  {text name : String} {place : Nat} {cell : Snapshot}
  (lexed : tokenize text (bodyStart text) = .ok [⟨.cellReference, name, place⟩, finish text.length])

include lexed

theorem evaluateWithin_reference :
    evaluateWithin accessor chain allowance text =
      referenceValue accessor chain allowance ⟨.cellReference, name, place⟩ := by
  have visible : bodyStart text < text.length :=
    Nat.lt_of_not_le fun blank => absurd ((blank_iff lexed).1 blank) (Nat.succ_succ_ne_one 0)
  rw [evaluateWithin_lexed accessor chain allowance visible lexed]
  exact evaluateTokens_reference _ _ rfl rfl

theorem evaluateWithin_plain (closed : name ∉ chain.references)
    (found : accessor.bind (· name) = some cell) (plain : cell.isFormula = false) :
    evaluateWithin accessor chain allowance text = .ok cell.cachedValue := by
  rw [evaluateWithin_reference lexed, referenceValue]
  dsimp only
  rw [findCell_ok_iff.2 ⟨closed, found⟩, mapError_ok, ok_bind, plain]
  rfl

theorem evaluateWithin_followed (found : accessor.bind (· name) = some cell) (formula : cell.isFormula)
    (entered : chain.enter name = .ok inner)
    (spent : allowance.spend Allowance.reference = .ok left) :
    evaluateWithin accessor chain allowance text =
      (evaluateWithin accessor inner left cell.rawExpression).mapError Fault.elsewhere := by
  have closed : name ∉ chain.references := (Chain.enter_ok entered).1
  rw [evaluateWithin_reference lexed, referenceValue]
  dsimp only
  rw [findCell_ok_iff.2 ⟨closed, found⟩, mapError_ok, ok_bind, if_pos formula, entered,
    mapError_ok, ok_bind, spent, ok_bind]

theorem evaluateWithin_open (member : name ∈ chain.references) :
    evaluateWithin accessor chain allowance text =
      .error (.formula ((Cause.cycle (chain.references ++ [name])).at place)) := by
  rw [evaluateWithin_reference lexed, referenceValue]
  dsimp only
  rw [findCell_open accessor member]
  rfl

end References

theorem factor_negated (follow : Allowance → Token → Outcome) (n position : Nat) :
    ∃ tokens mark, Segments position (negated n) tokens ∧ mark.kind = .endOfInput ∧ ∀ k,
      (n ≤ k → ∃ v, (v = numeralValue "1" ∨ ∃ b, v = .boolean b) ∧
        Bare.factor follow (some k) tokens = .ok (v, [mark])) ∧
      (k < n → Bare.factor follow (some k) tokens = .error .nestedTooDeeply) := by
  induction n generalizing position with
  | zero =>
    have digit : ∀ c ∈ ['1'], isAsciiDigit c := by simp [isAsciiDigit]
    have segments := Segments.token position .number ['1'] [] _ (.number ['1'] (by simp) digit)
      (by simp) (.finish _)
    refine ⟨_, finish (position + 1), segments, rfl, fun k => ⟨fun _ => ?_, by omega⟩⟩
    exact ⟨_, .inl rfl, by rw [Bare.factor_cons]; rfl⟩
  | succ n ih =>
    obtain ⟨tokens, mark, segments, ended, reads⟩ := ih (position + 4)
    have more : Segments (position + "not".toList.length) (' ' :: negated n) tokens :=
      .blank _ ' ' _ _ (by decide) segments
    have apart (c : Char) (head : (' ' :: negated n).head? = some c) :
        extends? .not c = false := by
      cases head
      rfl
    have first := Segments.token position .not _ _ _ lexeme_not apart more
    refine ⟨_, mark, first, ended, fun k => ?_⟩
    rw [Bare.factor_cons]
    dsimp only
    rw [Allowance.spend]
    split
    next enough =>
      rw [Allowance.negation] at enough ⊢
      obtain ⟨fits, exceeds⟩ := reads (k - 1)
      refine ⟨fun within => ?_, fun less => ?_⟩
      · obtain ⟨v, kind, read⟩ := fits (by omega)
        rw [ok_bind, read, ok_bind]
        have truth : ∃ b, negate v = .ok (.boolean b) := by
          rcases kind with rfl | ⟨b, rfl⟩
          · exact ⟨false, by cbv⟩
          · exact ⟨!b, rfl⟩
        obtain ⟨b, same⟩ := truth
        exact ⟨.boolean b, .inr ⟨b, rfl⟩, by simp only [same, ok_bind]⟩
      · rw [ok_bind, exceeds (by omega), error_bind]
    next enough =>
      rw [Allowance.negation] at enough
      exact ⟨by omega, fun _ => rfl⟩

theorem body_negatedText (n : Nat) : body (negatedText n).toList = negated n := by
  rw [negatedText, String.toList_ofList]
  cases n <;> rfl

theorem split_negatedText (n : Nat) :
    (negatedText n).toList = ['='] ++ body (negatedText n).toList := by
  rw [body_negatedText, negatedText, String.toList_ofList]
  rfl

theorem visible_negatedText (n : Nat) : bodyStart (negatedText n) < (negatedText n).length := by
  rw [bodyStart_eq (split_negatedText n), negatedText, String.length_ofList]
  cases n <;> simp [negated]

/-- Negations have a value within an allowance that is as great as their number, and within no
smaller one. -/
theorem evaluateWithin_negated (accessor : Option Accessor) (chain : Chain) (n k : Nat) :
    (n ≤ k → ∃ v, evaluateWithin accessor chain (some k) (negatedText n) = .ok v) ∧
      (k < n → evaluateWithin accessor chain (some k) (negatedText n) =
        .error .nestedTooDeeply) := by
  obtain ⟨tokens, mark, segments, ended, reads⟩ :=
    factor_negated (referenceValue accessor chain) n 1
  have lexed : tokenize (negatedText n) (bodyStart (negatedText n)) = .ok tokens := by
    rw [tokenize_eq (split_negatedText n), body_negatedText]
    exact scan_ok_iff.2 segments
  rw [evaluateWithin_lexed accessor chain _ (visible_negatedText n) lexed]
  refine ⟨fun within => ?_, fun less => ?_⟩
  · obtain ⟨v, _, read⟩ := (reads k).1 within
    exact ⟨v, evaluateTokens_factor _ _ ended read⟩
  · exact evaluateTokens_factor_error _ _ ((reads k).2 less)

end Evaluation
end FormulaGrid
