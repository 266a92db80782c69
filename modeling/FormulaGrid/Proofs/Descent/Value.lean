import FormulaGrid.Evaluation.Basic
import FormulaGrid.Proofs.Descent.Basic
import FormulaGrid.Proofs.Pushdown.Viability
import FormulaGrid.Proofs.TreeValue

/-! What the descent makes of tokens that form a phrase: the value of the phrase's tree, whatever
follows the phrase, as long as nothing that follows would extend it. -/
namespace FormulaGrid.Evaluation

open FormulaGrid.Failure FormulaGrid.Formula FormulaGrid.Grammar

def Settled (rest : List Token) : Prop :=
  (current rest).kind.product? = none ∧ (current rest).kind.sum? = none ∧
    (current rest).kind.comparison? = none

theorem settled_of_kind {token : Token} {kind : TokenKind} (known : token.kind = kind)
    (unsigned : kind.product? = none ∧ kind.sum? = none ∧ kind.comparison? = none)
    (rest : List Token) : Settled (token :: rest) := by
  subst known
  exact unsigned

variable (follow : Allowance → Token → Outcome)

/-- How the descent reads the tokens of a phrase with others behind. A product may go on with a
factor, and a sum with a product. -/
def Evaluates : Phrase → List Token → Prop
  | .factor formula, tokens => ∀ rest,
      Bare.factor follow none (tokens ++ rest) =
        formula.value (follow none) >>= fun v => .ok (v, rest)
  | .product formula, tokens => ∀ rest,
      Bare.product follow none (tokens ++ rest) =
        formula.value (follow none) >>= fun v => Bare.multipliers follow none v rest
  | .sum formula, tokens => ∀ rest, (current rest).kind.product? = none →
      Bare.sum follow none (tokens ++ rest) =
        formula.value (follow none) >>= fun v => Bare.addends follow none v rest
  | .comparison formula, tokens => ∀ rest, Settled rest →
      Bare.comparison follow none (tokens ++ rest) =
        formula.value (follow none) >>= fun v => .ok (v, rest)
  | .arguments formulas, tokens => ∀ closing rest, closing.kind = .rightParen →
      (Bare.comparison follow none (tokens ++ closing :: rest) >>= fun first =>
        Bare.moreArguments follow none first.2 >>= fun others =>
          .ok (first.1 :: others.1, others.2)) =
        values (follow none) formulas >>= fun all => .ok (all, rest)

variable {follow}

theorem comparison_compare {left right : Formula} {before after : List Token} {sign : Token}
    {operator : Operator} (signed : sign.kind.comparison? = some operator)
    (first : Evaluates follow (.sum left) before) (second : Evaluates follow (.sum right) after)
    {rest : List Token} (noProduct : (current rest).kind.product? = none)
    (noSum : (current rest).kind.sum? = none) :
    Bare.comparison follow none (before ++ sign :: (after ++ rest)) =
      (Formula.binary operator sign.position left right).value (follow none) >>= fun v =>
        .ok (v, rest) := by
  have unsummed : (current (sign :: (after ++ rest))).kind.sum? = none :=
    sum_none_of_comparison signed
  rw [Bare.comparison_eq, first (sign :: (after ++ rest)) (product_none_of_comparison signed),
    Formula.value]
  cases left.value (follow none) with
  | error fault => rfl
  | ok a =>
    simp only [ok_bind, Bare.addends_settled follow none a unsummed, signed, second rest noProduct]
    cases right.value (follow none) with
    | error fault => rfl
    | ok b => simp only [ok_bind, Bare.addends_settled follow none b noSum]

theorem evaluates {phrase : Phrase} {tokens : List Token} (derived : Derives phrase tokens) :
    Evaluates follow phrase tokens := by
  induction derived with
  | number token kind =>
    intro rest
    rw [List.singleton_append, Bare.factor_cons, kind]
    rfl
  | reference token kind =>
    intro rest
    have whole : (⟨.cellReference, token.lexeme, token.position⟩ : Token) = token := by
      rw [← kind]
    rw [List.singleton_append, Bare.factor_cons, kind, Formula.value, whole]
  | emptyCall name opening closing function opens closes =>
    intro rest
    simp only [List.cons_append, List.nil_append, Bare.factor_cons, function, Bare.expect_cons,
      opens, if_true, ok_bind, spend_none, Bare.argumentList_cons, closes]
    rfl
  | call name opening closing arguments tokens function opens closes inner ih =>
    intro rest
    have listed := ih closing rest closes
    obtain ⟨head, others, rfl, begins⟩ := inner.starts
    have more : head.kind ≠ .rightParen := by
      intro same
      rw [same] at begins
      cases begins
    simp only [List.cons_append, List.append_assoc, List.nil_append] at listed ⊢
    simp only [Bare.factor_cons, function, Bare.expect_cons, opens, if_true, ok_bind, spend_none,
      Bare.argumentList_cons, more, if_false, listed, Formula.value]
    cases values (follow none) arguments <;> rfl
  | negation sign operand tokens negates inner ih =>
    intro rest
    simp only [List.cons_append, Bare.factor_cons, negates, spend_none, ok_bind, ih rest,
      Formula.value]
    cases operand.value (follow none) <;> rfl
  | group opening closing formula tokens opens closes inner ih =>
    intro rest
    have closed := ih (closing :: rest) (settled_of_kind closes (by decide) rest)
    simp only [List.cons_append, List.append_assoc, List.nil_append, Bare.factor_cons, opens,
      spend_none, ok_bind, closed]
    cases formula.value (follow none) with
    | error fault => rfl
    | ok v => simp only [ok_bind, Bare.expect_cons, closes, if_true]
  | ofFactor formula tokens inner ih =>
    intro rest
    rw [Bare.product_eq, ih rest]
    cases formula.value (follow none) <;> rfl
  | multiply left right before after sign operator signed first second ihl ihr =>
    intro rest
    rw [List.append_assoc, List.cons_append, ihl, Formula.value]
    cases left.value (follow none) with
    | error fault => rfl
    | ok a =>
      simp only [ok_bind, Bare.multipliers_cons, signed, ihr rest]
      cases right.value (follow none) <;> rfl
  | ofProduct formula tokens inner ih =>
    intro rest noProduct
    rw [Bare.sum_eq, ih rest]
    cases formula.value (follow none) with
    | error fault => rfl
    | ok v => simp only [ok_bind, Bare.multipliers_settled follow none v noProduct]
  | add left right before after sign operator signed first second ihl ihr =>
    intro rest noProduct
    rw [List.append_assoc, List.cons_append, ihl (sign :: (after ++ rest))
      (product_none_of_sum signed), Formula.value]
    cases left.value (follow none) with
    | error fault => rfl
    | ok a =>
      simp only [ok_bind, Bare.addends_cons, signed, ihr rest]
      cases right.value (follow none) with
      | error fault => rfl
      | ok b => simp only [ok_bind, Bare.multipliers_settled follow none b noProduct]
  | ofSum formula tokens inner ih =>
    intro rest settled
    obtain ⟨noProduct, noSum, noComparison⟩ := settled
    rw [Bare.comparison_eq, ih rest noProduct]
    cases formula.value (follow none) with
    | error fault => rfl
    | ok v =>
      simp only [ok_bind, Bare.addends_settled follow none v noSum]
      cases rest with
      | nil => rfl
      | cons sign rest =>
        rw [current] at noComparison
        simp only [noComparison]
  | compare left right before after sign operator signed first second ihl ihr =>
    intro rest settled
    rw [List.append_assoc, List.cons_append]
    exact comparison_compare signed ihl ihr settled.1 settled.2.1
  | lastArgument formula tokens inner ih =>
    intro closing rest closes
    rw [ih (closing :: rest) (settled_of_kind closes (by decide) rest), values]
    cases formula.value (follow none) with
    | error fault => rfl
    | ok v =>
      simp only [ok_bind, Bare.moreArguments_cons, closes, if_true, reduceCtorEq, if_false]
      rfl
  | argument formula others before after comma separates first more ihf ihm =>
    intro closing rest closes
    have listed := ihm closing rest closes
    rw [List.append_assoc, List.cons_append, ihf (comma :: (after ++ closing :: rest))
      (settled_of_kind separates (by decide) _), values]
    cases formula.value (follow none) with
    | error fault => rfl
    | ok v =>
      simp only [ok_bind, Bare.moreArguments_cons, separates, if_true, listed]
      cases values (follow none) others <;> rfl

end FormulaGrid.Evaluation
