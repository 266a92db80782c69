import FormulaGrid.Proofs.Pushdown.Completeness

/-! What a state says of the tokens that led to it: the operands that wait, the brackets that are
open and the factor read last are phrases of the grammar, and the tokens are theirs in order. Every
step keeps this. -/
namespace FormulaGrid.Grammar

open FormulaGrid.Formula

/-- The tokens of a left operand, if one waits, and of the operator after it. -/
inductive Waits (phrase : Formula → Phrase) (operator? : TokenKind → Option Operator) :
    Option Waiting → List Token → Prop
  | nothing : Waits phrase operator? none []
  | operand (left : Formula) (tokens : List Token) (sign : Token) (operator : Operator)
      (signed : operator? sign.kind = some operator) (derived : Derives (phrase left) tokens) :
      Waits phrase operator? (some ⟨left, operator, sign.position⟩) (tokens ++ [sign])

/-- The tokens of all that waits within a bracket. -/
inductive Holds : Pending → List Token → Prop
  | all (compared summed multiplied : Option Waiting) (first second third signs : List Token)
      (compares : Waits .sum TokenKind.comparison? compared first)
      (sums : Waits .sum TokenKind.sum? summed second)
      (multiplies : Waits .product TokenKind.product? multiplied third)
      (negates : ∀ sign ∈ signs, sign.kind = .not) :
      Holds ⟨compared, summed, multiplied, (signs.map Token.position).reverse⟩
        (first ++ (second ++ (third ++ signs)))

/-- The tokens of a call's arguments, last first, each with the comma after it. -/
inductive Precedes : List Formula → List Token → Prop
  | nothing : Precedes [] []
  | argument (formula : Formula) (others : List Formula) (before tokens : List Token)
      (comma : Token) (separates : comma.kind = .comma) (earlier : Precedes others before)
      (derived : Derives (.comparison formula) tokens) :
      Precedes (formula :: others) (before ++ (tokens ++ [comma]))

/-- The tokens from what waits outside a bracket to where the bracket's comparison begins. -/
inductive Surrounds : Bracket → List Token → Prop
  | group (outside : Pending) (before : List Token) (opening : Token)
      (holds : Holds outside before) (opens : opening.kind = .leftParen) :
      Surrounds (.group outside) (before ++ [opening])
  | call (outside : Pending) (before : List Token) (name opening : Token)
      (arguments : List Formula) (tokens : List Token) (holds : Holds outside before)
      (function : name.kind = .function) (opens : opening.kind = .leftParen)
      (earlier : Precedes arguments tokens) :
      Surrounds (.call outside name.lexeme name.position arguments)
        (before ++ name :: opening :: tokens)

/-- The tokens before the comparison within the innermost bracket. -/
inductive Opens : List Bracket → List Token → Prop
  | nothing : Opens [] []
  | bracket (bracket : Bracket) (brackets : List Bracket) (before tokens : List Token)
      (outer : Opens brackets before) (inner : Surrounds bracket tokens) :
      Opens (bracket :: brackets) (before ++ tokens)

def awaitsArgument : List Bracket → Bool
  | .call _ _ _ [] :: _ => true
  | _ => false

/-- The tokens that lead to a state. -/
inductive Spells : State → List Token → Prop
  | operand (brackets : List Bracket) (pending : Pending) (before tokens : List Token)
      (outer : Opens brackets before) (holds : Holds pending tokens)
      (begun : tokens = [] → awaitsArgument brackets = false) :
      Spells ⟨brackets, pending, .operand⟩ (before ++ tokens)
  | callee (brackets : List Bracket) (pending : Pending) (before tokens : List Token)
      (name : Token) (outer : Opens brackets before) (holds : Holds pending tokens)
      (function : name.kind = .function) :
      Spells ⟨brackets, pending, .callee name.lexeme name.position⟩ (before ++ (tokens ++ [name]))
  | firstArgument (brackets : List Bracket) (before : List Token)
      (awaits : awaitsArgument brackets) (outer : Opens brackets before) :
      Spells ⟨brackets, .none, .firstArgument⟩ before
  | operated (brackets : List Bracket) (pending : Pending) (before tokens : List Token)
      (last : Formula) (factor : List Token) (outer : Opens brackets before)
      (holds : Holds pending tokens) (settled : pending.negations = [])
      (derived : Derives (.factor last) factor) :
      Spells ⟨brackets, pending, .operated last⟩ (before ++ (tokens ++ factor))

theorem holds_none : Holds .none [] :=
  .all none none none [] [] [] [] .nothing .nothing .nothing (by simp)

theorem spells_start : Spells .start [] :=
  .operand [] .none [] [] .nothing holds_none (fun _ => rfl)

section Phrases

variable {pending : Pending} {tokens more : List Token} {formula : Formula}

theorem Waits.product {multiplied : Option Waiting}
    (waits : Waits .product TokenKind.product? multiplied tokens)
    (derived : Derives (.factor formula) more) :
    Derives (.product (Pending.join multiplied formula)) (tokens ++ more) := by
  cases waits with
  | nothing => exact .ofFactor _ _ derived
  | operand left tokens sign operator signed first =>
    rw [List.append_assoc]
    exact .multiply _ _ _ _ _ _ signed first derived

theorem Waits.sum {summed : Option Waiting} (waits : Waits .sum TokenKind.sum? summed tokens)
    (derived : Derives (.product formula) more) :
    Derives (.sum (Pending.join summed formula)) (tokens ++ more) := by
  cases waits with
  | nothing => exact .ofProduct _ _ derived
  | operand left tokens sign operator signed first =>
    rw [List.append_assoc]
    exact .add _ _ _ _ _ _ signed first derived

theorem Waits.comparison {compared : Option Waiting}
    (waits : Waits .sum TokenKind.comparison? compared tokens)
    (derived : Derives (.sum formula) more) :
    Derives (.comparison (Pending.join compared formula)) (tokens ++ more) := by
  cases waits with
  | nothing => exact .ofSum _ _ derived
  | operand left tokens sign operator signed first =>
    rw [List.append_assoc]
    exact .compare _ _ _ _ _ _ signed first derived

/-- Negations are kept innermost first, so the first sign is the outermost one. -/
theorem derives_negated {signs : List Token} (negates : ∀ sign ∈ signs, sign.kind = .not)
    (derived : Derives (.factor formula) more) :
    Derives (.factor ((signs.map Token.position).reverse.foldl
      (fun value position => .negation position value) formula)) (signs ++ more) := by
  induction signs with
  | nil => exact derived
  | cons sign signs ih =>
    rw [List.map_cons, List.reverse_cons, List.foldl_append]
    exact .negation _ _ _ (negates sign (by simp))
      (ih fun other member => negates other (by simp [member]))

theorem Holds.negated (holds : Holds pending tokens) (derived : Derives (.factor formula) more) :
    ∃ before signs, tokens = before ++ signs ∧ Holds { pending with negations := [] } before ∧
      Derives (.factor (pending.negated formula)) (signs ++ more) := by
  obtain ⟨compared, summed, multiplied, first, second, third, signs, compares, sums, multiplies,
    negates⟩ := holds
  refine ⟨first ++ (second ++ third), signs, by simp, ?_, derives_negated negates derived⟩
  have kept := Holds.all _ _ _ _ _ _ [] compares sums multiplies (by simp)
  simpa using kept

theorem Holds.comparison (holds : Holds pending tokens) (settled : pending.negations = [])
    (derived : Derives (.factor formula) more) :
    Derives (.comparison (pending.comparison formula)) (tokens ++ more) := by
  obtain ⟨compared, summed, multiplied, first, second, third, signs, compares, sums, multiplies,
    negates⟩ := holds
  obtain rfl : signs = [] := by simpa using settled
  have whole := compares.comparison (sums.sum (multiplies.product derived))
  simpa [Pending.comparison, Pending.sum, Pending.product] using whole

theorem Holds.closed (holds : Holds pending tokens) (derived : Derives (.factor formula) more) :
    ∃ whole, Derives (.comparison whole) (tokens ++ more) := by
  obtain ⟨before, signs, rfl, kept, factor⟩ := holds.negated derived
  rw [List.append_assoc]
  exact ⟨_, kept.comparison rfl factor⟩

theorem Holds.starts (holds : Holds pending tokens) (nonempty : tokens ≠ []) : Starts tokens := by
  obtain ⟨whole, derived⟩ := holds.closed (.number ⟨.number, "", 0⟩ rfl)
  obtain ⟨token, rest, same, begins⟩ := derived.starts
  cases tokens with
  | nil => exact absurd rfl nonempty
  | cons first others =>
    cases same
    exact ⟨token, others, rfl, begins⟩

theorem Holds.starts_append (holds : Holds pending tokens) (starts : Starts more) :
    Starts (tokens ++ more) := by
  by_cases empty : tokens = []
  · rwa [empty, List.nil_append]
  · obtain ⟨token, rest, rfl, begins⟩ := holds.starts empty
    exact ⟨token, rest ++ more, rfl, begins⟩

theorem Precedes.arguments {earlier later : List Formula} (precedes : Precedes earlier tokens)
    (derived : Derives (.arguments later) more) :
    Derives (.arguments (earlier.reverse ++ later)) (tokens ++ more) := by
  induction precedes generalizing later more with
  | nothing => exact derived
  | argument formula others before tokens comma separates earlier first ih =>
    have rest := ih (.argument _ _ _ _ _ separates first derived)
    simpa using rest

end Phrases

section Steps

variable {state next : State} {before tokens : List Token} {token : Token}
  {brackets : List Bracket} {pending : Pending}

theorem spells_operated {operand : Formula} {factor : List Token} (outer : Opens brackets before)
    (holds : Holds pending tokens) (derived : Derives (.factor operand) factor) :
    Spells (State.operated brackets pending operand) (before ++ (tokens ++ factor)) := by
  obtain ⟨kept, signs, rfl, settled, negated⟩ := holds.negated derived
  rw [List.append_assoc]
  exact .operated _ _ _ _ _ _ outer settled rfl negated

theorem Holds.readNegation (holds : Holds pending tokens) (negates : token.kind = .not) :
    Holds { pending with negations := token.position :: pending.negations }
      (tokens ++ [token]) := by
  obtain ⟨compared, summed, multiplied, first, second, third, signs, compares, sums, multiplies,
    all⟩ := holds
  have extended := Holds.all _ _ _ _ _ _ (signs ++ [token]) compares sums multiplies
    (by simpa [or_imp, forall_and] using ⟨all, negates⟩)
  simpa using extended

theorem spells_readOperand {phase : Phase} (outer : Opens brackets before)
    (holds : Holds pending tokens)
    (stepped : State.readOperand ⟨brackets, pending, phase⟩ token = .ok next) :
    Spells next (before ++ (tokens ++ [token])) := by
  unfold State.readOperand at stepped
  split at stepped
  next number =>
    cases stepped
    exact spells_operated outer holds (.number token number)
  next reference =>
    cases stepped
    exact spells_operated outer holds (.reference token reference)
  next function =>
    cases stepped
    exact .callee _ _ _ _ _ outer holds function
  next negates =>
    cases stepped
    exact .operand _ _ _ _ outer (holds.readNegation negates) (by simp)
  next opens =>
    cases stepped
    have inside := Spells.operand _ _ _ _
      (.bracket _ _ _ _ outer (.group _ _ _ holds opens)) holds_none (fun _ => rfl)
    simpa using inside
  next => cases stepped

theorem spells_closeBracket {last : Formula} (outer : Opens state.brackets before)
    (derived : Derives (.comparison last) tokens) (closes : token.kind = .rightParen)
    (stepped : state.closeBracket last token = .ok next) :
    Spells next (before ++ (tokens ++ [token])) := by
  obtain ⟨brackets, pending, phase⟩ := state
  unfold State.closeBracket at stepped
  cases outer with
  | nothing => cases stepped
  | bracket bracket brackets outside inside outer inner =>
    cases inner with
    | group waiting held opening holds opens =>
      cases stepped
      have whole := spells_operated outer holds (.group _ _ _ _ opens closes derived)
      simpa using whole
    | call waiting held name opening arguments others holds function opens earlier =>
      cases stepped
      have all := earlier.arguments (.lastArgument _ _ derived)
      have whole := spells_operated outer holds (.call _ _ _ _ _ function opens closes all)
      simpa using whole

theorem spells_nextArgument {argument : Formula} (outer : Opens state.brackets before)
    (derived : Derives (.comparison argument) tokens) (separates : token.kind = .comma)
    (stepped : state.nextArgument argument token = .ok next) :
    Spells next (before ++ (tokens ++ [token])) := by
  obtain ⟨brackets, pending, phase⟩ := state
  unfold State.nextArgument at stepped
  cases outer with
  | nothing => cases stepped
  | bracket bracket brackets outside inside outer inner =>
    cases inner with
    | group => cases stepped
    | call waiting held name opening arguments others holds function opens earlier =>
      cases stepped
      have extended := Opens.bracket _ _ _ _ outer
        (.call _ _ _ _ _ _ holds function opens (.argument _ _ _ _ _ separates earlier derived))
      have whole := Spells.operand _ _ _ _ extended holds_none (fun _ => rfl)
      simpa using whole

theorem spells_readOperator {last : Formula} {factor : List Token} (outer : Opens brackets before)
    (holds : Holds pending tokens) (settled : pending.negations = [])
    (derived : Derives (.factor last) factor)
    (stepped : State.readOperator ⟨brackets, pending, .operated last⟩ last token = .ok next) :
    Spells next (before ++ (tokens ++ factor ++ [token])) := by
  have whole := holds.comparison settled derived
  obtain ⟨compared, summed, multiplied, first, second, third, signs, compares, sums, multiplies,
    negates⟩ := holds
  obtain rfl : signs = [] := by simpa using settled
  have product := multiplies.product derived
  have sum := sums.sum product
  unfold State.readOperator at stepped
  dsimp only at stepped
  split at stepped
  next operator signed =>
    cases stepped
    have held := Holds.all _ _ _ _ _ _ [] compares sums
      (.operand _ _ _ _ signed product) (by simp)
    have spelled := Spells.operand _ _ _ _ outer held (by simp)
    simpa [Pending.product] using spelled
  next operator signed _ =>
    cases stepped
    have held := Holds.all _ _ _ _ _ _ [] compares (.operand _ _ _ _ signed sum) .nothing
      (by simp)
    have spelled := Spells.operand _ _ _ _ outer held (by simp)
    simpa [Pending.product, Pending.sum] using spelled
  next operator signed _ _ =>
    split at stepped
    · cases stepped
    next free =>
      obtain rfl : compared = none := by simpa using free
      cases compares
      cases stepped
      have held := Holds.all _ _ _ _ _ _ [] (.operand _ _ _ _ signed sum) .nothing .nothing
        (by simp)
      have spelled := Spells.operand _ _ _ _ outer held (by simp)
      simpa [Pending.product, Pending.sum] using spelled
  next =>
    split at stepped
    next closes => exact spells_closeBracket outer whole closes stepped
    next separates => exact spells_nextArgument outer whole separates stepped
    next => cases stepped

/-- Every token that is read extends the tokens that led to the state. -/
theorem Spells.step (spelled : Spells state before) (stepped : state.step token = .ok next) :
    Spells next (before ++ [token]) := by
  cases spelled with
  | operand brackets pending before tokens outer holds begun =>
    rw [List.append_assoc]
    exact spells_readOperand outer holds stepped
  | callee brackets pending before tokens name outer holds function =>
    simp only [State.step, State.readCallee] at stepped
    split at stepped
    next opens =>
      cases stepped
      have opened := Opens.bracket _ _ _ _ outer
        (.call _ _ _ _ _ _ holds function opens .nothing)
      have whole := Spells.firstArgument _ _ rfl opened
      simpa using whole
    next => cases stepped
  | firstArgument brackets before awaits outer =>
    cases outer with
    | nothing => cases awaits
    | bracket bracket brackets outside inside outer inner =>
      cases inner with
      | group => cases awaits
      | call waiting held name opening arguments others holds function opens earlier =>
        cases earlier with
        | argument => cases awaits
        | nothing =>
          simp only [State.step] at stepped
          split at stepped
          next closes shape =>
            cases shape
            cases stepped
            have whole := spells_operated outer holds (.emptyCall _ _ _ function opens closes)
            simpa using whole
          next =>
            have opened := Opens.bracket _ _ _ _ outer
              (.call _ _ _ _ _ _ holds function opens .nothing)
            simpa using spells_readOperand opened holds_none stepped
  | operated brackets pending before tokens last factor outer holds settled derived =>
    have whole := spells_readOperator outer holds settled derived stepped
    simpa using whole

end Steps

end FormulaGrid.Grammar
