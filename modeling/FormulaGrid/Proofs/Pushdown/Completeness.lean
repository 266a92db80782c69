import FormulaGrid.Formula.Pushdown
import FormulaGrid.Proofs.Grammar

/-! Reading with a stack of brackets compared with the grammar. -/
namespace FormulaGrid.Grammar

open FormulaGrid.Formula

section Signs

variable {kind : TokenKind} {operator : Operator}

theorem ne_end_of_product (signed : kind.product? = some operator) : kind ≠ .endOfInput := by
  rintro rfl
  cases signed

theorem ne_end_of_sum (signed : kind.sum? = some operator) : kind ≠ .endOfInput := by
  rintro rfl
  cases signed

theorem ne_end_of_comparison (signed : kind.comparison? = some operator) :
    kind ≠ .endOfInput := by
  rintro rfl
  cases signed

theorem product_none_of_sum (signed : kind.sum? = some operator) : kind.product? = none := by
  cases kind <;> first | rfl | cases signed

theorem product_none_of_comparison (signed : kind.comparison? = some operator) :
    kind.product? = none := by
  cases kind <;> first | rfl | cases signed

theorem sum_none_of_comparison (signed : kind.comparison? = some operator) :
    kind.sum? = none := by
  cases kind <;> first | rfl | cases signed

theorem ne_end_of_beginsPhrase (begins : beginsPhrase kind) : kind ≠ .endOfInput := by
  rintro rfl
  cases begins

end Signs

theorem read_step {state next : State} {token : Token} (more : token.kind ≠ .endOfInput)
    (stepped : state.step token = .ok next) (rest : List Token) :
    state.read (token :: rest) = next.read rest := by
  rw [State.read, if_neg more, stepped]
  rfl

/-- After the opening bracket of a call, all tokens but the closing bracket count as an operand. -/
theorem read_firstArgument (brackets : List Bracket) (pending : Pending) (token : Token)
    (rest : List Token) (begins : beginsPhrase token.kind) :
    State.read ⟨brackets, pending, .firstArgument⟩ (token :: rest) =
      State.read ⟨brackets, pending, .operand⟩ (token :: rest) := by
  have same : State.step ⟨brackets, pending, .firstArgument⟩ token =
      State.step ⟨brackets, pending, .operand⟩ token := by
    cases kind : token.kind <;> simp_all [State.step, State.readOperand, beginsPhrase]
  have more := ne_end_of_beginsPhrase begins
  rw [State.read, if_neg more, State.read, if_neg more, same]

section Steps

variable {brackets : List Bracket} {pending : Pending} {last : Formula} {token : Token}
  {operator : Operator}

theorem step_number (kind : token.kind = .number) :
    State.step ⟨brackets, pending, .operand⟩ token =
      .ok (State.operated brackets pending (.number token.lexeme token.position)) := by
  simp only [State.step, State.readOperand, kind]

theorem step_reference (kind : token.kind = .cellReference) :
    State.step ⟨brackets, pending, .operand⟩ token =
      .ok (State.operated brackets pending (.reference token.lexeme token.position)) := by
  simp only [State.step, State.readOperand, kind]

theorem step_function (function : token.kind = .function) :
    State.step ⟨brackets, pending, .operand⟩ token =
      .ok ⟨brackets, pending, .callee token.lexeme token.position⟩ := by
  simp only [State.step, State.readOperand, function]

theorem step_negation (negates : token.kind = .not) :
    State.step ⟨brackets, pending, .operand⟩ token =
      .ok ⟨brackets, { pending with negations := token.position :: pending.negations },
        .operand⟩ := by
  simp only [State.step, State.readOperand, negates]

theorem step_group (opens : token.kind = .leftParen) :
    State.step ⟨brackets, pending, .operand⟩ token =
      .ok ⟨.group pending :: brackets, .none, .operand⟩ := by
  simp only [State.step, State.readOperand, opens]

theorem step_callee {name : String} {position : Nat} (opens : token.kind = .leftParen) :
    State.step ⟨brackets, pending, .callee name position⟩ token =
      .ok ⟨.call pending name position [] :: brackets, .none, .firstArgument⟩ :=
  if_pos opens

theorem step_emptyCall {outside : Pending} {name : String} {position : Nat}
    {arguments : List Formula} (closes : token.kind = .rightParen) :
    State.step ⟨.call outside name position arguments :: brackets, pending, .firstArgument⟩ token =
      .ok (State.operated brackets outside (.call name position [])) := by
  simp only [State.step, closes]

theorem step_multiply (signed : token.kind.product? = some operator) :
    State.step ⟨brackets, pending, .operated last⟩ token =
      .ok ⟨brackets,
        { pending with multiplied := some ⟨pending.product last, operator, token.position⟩ },
        .operand⟩ := by
  simp only [State.step, State.readOperator, signed]

theorem step_add (signed : token.kind.sum? = some operator) :
    State.step ⟨brackets, pending, .operated last⟩ token =
      .ok ⟨brackets,
        { pending with
          summed := some ⟨pending.sum last, operator, token.position⟩
          multiplied := none },
        .operand⟩ := by
  simp only [State.step, State.readOperator, signed, product_none_of_sum signed]

/-- One comparison at most waits in a bracket. -/
theorem step_compare (signed : token.kind.comparison? = some operator)
    (first : pending.compared = none) :
    State.step ⟨brackets, pending, .operated last⟩ token =
      .ok ⟨brackets, ⟨some ⟨pending.sum last, operator, token.position⟩, none, none, []⟩,
        .operand⟩ := by
  simp [State.step, State.readOperator, signed, product_none_of_comparison signed,
    sum_none_of_comparison signed, first]

theorem step_closing (closes : token.kind = .rightParen) :
    State.step ⟨brackets, pending, .operated last⟩ token =
      State.closeBracket ⟨brackets, pending, .operated last⟩ (pending.comparison last) token := by
  simp only [State.step, State.readOperator, closes, TokenKind.product?, TokenKind.sum?,
    TokenKind.comparison?]

theorem step_comma (separates : token.kind = .comma) :
    State.step ⟨brackets, pending, .operated last⟩ token =
      State.nextArgument ⟨brackets, pending, .operated last⟩ (pending.comparison last) token := by
  simp only [State.step, State.readOperator, separates, TokenKind.product?, TokenKind.sum?,
    TokenKind.comparison?]

end Steps

/-- How reading the tokens of a phrase changes the state. What the phrase leaves waiting makes up
its tree together with the last factor. -/
def Reads : Phrase → List Token → Prop
  | .factor formula, tokens => ∀ brackets pending rest,
      State.read ⟨brackets, pending, .operand⟩ (tokens ++ rest) =
        (State.operated brackets pending formula).read rest
  | .product formula, tokens => ∀ brackets compared summed, ∃ multiplied last,
      Pending.join multiplied last = formula ∧ ∀ rest,
        State.read ⟨brackets, ⟨compared, summed, none, []⟩, .operand⟩ (tokens ++ rest) =
          State.read ⟨brackets, ⟨compared, summed, multiplied, []⟩, .operated last⟩ rest
  | .sum formula, tokens => ∀ brackets compared, ∃ summed multiplied last,
      Pending.join summed (Pending.join multiplied last) = formula ∧ ∀ rest,
        State.read ⟨brackets, ⟨compared, none, none, []⟩, .operand⟩ (tokens ++ rest) =
          State.read ⟨brackets, ⟨compared, summed, multiplied, []⟩, .operated last⟩ rest
  | .comparison formula, tokens => ∀ brackets, ∃ (pending : Pending) (last : Formula),
      pending.comparison last = formula ∧ ∀ rest,
        State.read ⟨brackets, .none, .operand⟩ (tokens ++ rest) =
          State.read ⟨brackets, pending, .operated last⟩ rest
  | .arguments formulas, tokens => ∀ brackets outside name position earlier,
      ∃ (pending : Pending) (last : Formula) (others : List Formula),
        pending.comparison last :: others = formulas.reverse ++ earlier ∧ ∀ rest,
          State.read ⟨.call outside name position earlier :: brackets, .none, .operand⟩
              (tokens ++ rest) =
            State.read ⟨.call outside name position others :: brackets, pending, .operated last⟩
              rest

theorem Derives.reads {phrase : Phrase} {tokens : List Token} (derived : Derives phrase tokens) :
    Reads phrase tokens := by
  induction derived with
  | number token kind =>
    intro brackets pending rest
    exact read_step (by simp [kind]) (step_number kind) rest
  | reference token kind =>
    intro brackets pending rest
    exact read_step (by simp [kind]) (step_reference kind) rest
  | emptyCall name opening closing function opens closes =>
    intro brackets pending rest
    simp only [List.cons_append, List.nil_append]
    rw [read_step (by simp [function]) (step_function function),
      read_step (by simp [opens]) (step_callee opens),
      read_step (by simp [closes]) (step_emptyCall closes)]
  | call name opening closing arguments tokens function opens closes inner ih =>
    intro brackets pending rest
    obtain ⟨first, others, rfl, begins⟩ := inner.starts
    obtain ⟨waiting, last, earlier, all, reads⟩ :=
      ih brackets pending name.lexeme name.position []
    have closed : State.step ⟨.call pending name.lexeme name.position earlier :: brackets, waiting,
        .operated last⟩ closing =
        .ok (State.operated brackets pending (.call name.lexeme name.position arguments)) := by
      simp [step_closing closes, State.closeBracket, all]
    simp only [List.cons_append, List.append_assoc, List.nil_append] at reads ⊢
    rw [read_step (by simp [function]) (step_function function),
      read_step (by simp [opens]) (step_callee opens), read_firstArgument _ _ _ _ begins, reads,
      read_step (by simp [closes]) closed]
  | negation sign operand tokens negates inner ih =>
    intro brackets pending rest
    rw [List.cons_append, read_step (by simp [negates]) (step_negation negates), ih]
    rfl
  | group opening closing formula tokens opens closes inner ih =>
    intro brackets pending rest
    obtain ⟨waiting, last, whole, reads⟩ := ih (.group pending :: brackets)
    have closed : State.step ⟨.group pending :: brackets, waiting, .operated last⟩ closing =
        .ok (State.operated brackets pending formula) := by
      rw [step_closing closes, whole, State.closeBracket]
    simp only [List.cons_append, List.append_assoc, List.nil_append]
    rw [read_step (by simp [opens]) (step_group opens), reads,
      read_step (by simp [closes]) closed]
  | ofFactor formula tokens inner ih =>
    intro brackets compared summed
    exact ⟨none, formula, rfl, fun rest => ih brackets ⟨compared, summed, none, []⟩ rest⟩
  | multiply left right before after sign operator signed first second ihl ihr =>
    intro brackets compared summed
    obtain ⟨multiplied, last, rfl, reads⟩ := ihl brackets compared summed
    refine ⟨some ⟨Pending.join multiplied last, operator, sign.position⟩, right, rfl,
      fun rest => ?_⟩
    rw [List.append_assoc, List.cons_append, reads,
      read_step (ne_end_of_product signed) (step_multiply signed)]
    exact ihr _ _ rest
  | ofProduct formula tokens inner ih =>
    intro brackets compared
    obtain ⟨multiplied, last, whole, reads⟩ := ih brackets compared none
    exact ⟨none, multiplied, last, whole, reads⟩
  | add left right before after sign operator signed first second ihl ihr =>
    intro brackets compared
    obtain ⟨summed, multiplied, last, rfl, reads⟩ := ihl brackets compared
    let waiting : Waiting :=
      ⟨Pending.join summed (Pending.join multiplied last), operator, sign.position⟩
    obtain ⟨multiplied', last', rfl, reads'⟩ := ihr brackets compared (some waiting)
    refine ⟨some waiting, multiplied', last', rfl, fun rest => ?_⟩
    rw [List.append_assoc, List.cons_append, reads,
      read_step (ne_end_of_sum signed) (step_add signed)]
    exact reads' rest
  | ofSum formula tokens inner ih =>
    intro brackets
    obtain ⟨summed, multiplied, last, whole, reads⟩ := ih brackets none
    exact ⟨⟨none, summed, multiplied, []⟩, last, whole, reads⟩
  | compare left right before after sign operator signed first second ihl ihr =>
    intro brackets
    obtain ⟨summed, multiplied, last, rfl, reads⟩ := ihl brackets none
    let waiting : Waiting :=
      ⟨Pending.join summed (Pending.join multiplied last), operator, sign.position⟩
    obtain ⟨summed', multiplied', last', rfl, reads'⟩ := ihr brackets (some waiting)
    refine ⟨⟨some waiting, summed', multiplied', []⟩, last', rfl, fun rest => ?_⟩
    rw [List.append_assoc, List.cons_append]
    exact (reads _).trans
      ((read_step (ne_end_of_comparison signed) (step_compare signed rfl) _).trans (reads' _))
  | lastArgument formula tokens inner ih =>
    intro brackets outside name position earlier
    obtain ⟨pending, last, whole, reads⟩ :=
      ih (.call outside name position earlier :: brackets)
    exact ⟨pending, last, earlier, by rw [whole]; rfl, reads⟩
  | argument formula others before after comma separates first more ihf ihm =>
    intro brackets outside name position earlier
    obtain ⟨waiting, last, whole, reads⟩ := ihf (.call outside name position earlier :: brackets)
    obtain ⟨pending, last', others', all, reads'⟩ :=
      ihm brackets outside name position (formula :: earlier)
    refine ⟨pending, last', others', by simp [all], fun rest => ?_⟩
    have stepped : State.step ⟨.call outside name position earlier :: brackets, waiting,
        .operated last⟩ comma =
        .ok ⟨.call outside name position (formula :: earlier) :: brackets, .none, .operand⟩ := by
      rw [step_comma separates, whole, State.nextArgument]
    rw [List.append_assoc, List.cons_append, reads,
      read_step (by simp [separates]) stepped, reads']

end FormulaGrid.Grammar
