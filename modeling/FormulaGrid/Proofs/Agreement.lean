import FormulaGrid.Proofs.Body
import FormulaGrid.Proofs.Descent.Failure
import FormulaGrid.Proofs.Parallel
import FormulaGrid.Proofs.Syntax

/-! Evaluation and the check compared on texts. Both go through the same stages: a text is blank, or
it has no tokens, or its tokens are refused, or they form a tree. Each stage settles what either of
them comes to. -/
namespace FormulaGrid.Evaluation

open FormulaGrid.Failure FormulaGrid.Formula FormulaGrid.Grammar

section Stages

variable {text : String} {tokens : List Token} {formula : Formula} {error : FormulaError}

/-- How far the check of a text comes before the calls are checked. -/
inductive Stage (text : String) : Prop
  | blank (blank : text.length ≤ Token.bodyStart text)
  | unlexed (visible : Token.bodyStart text < text.length) (error : FormulaError)
      (lexed : Token.tokenize text (Token.bodyStart text) = .error error)
  | refused (visible : Token.bodyStart text < text.length) (tokens : List Token)
      (error : FormulaError) (lexed : Token.tokenize text (Token.bodyStart text) = .ok tokens)
      (read : ofTokens tokens = .error error)
  | parsed (formula : Formula) (parses : Parses text formula)

theorem stage (text : String) : Stage text := by
  by_cases blank : text.length ≤ Token.bodyStart text
  · exact .blank blank
  have visible := Nat.lt_of_not_le blank
  cases lexed : Token.tokenize text (Token.bodyStart text) with
  | error error => exact .unlexed visible error lexed
  | ok tokens =>
    cases read : ofTokens tokens with
    | error error => exact .refused visible tokens error lexed read
    | ok formula => exact .parsed formula ⟨visible, tokens, lexed, read⟩

theorem validate_blank (blank : text.length ≤ Token.bodyStart text) :
    validate text = .ok .empty := by
  rw [validate, ofText?, if_pos blank]

theorem validate_unlexed (visible : Token.bodyStart text < text.length)
    (lexed : Token.tokenize text (Token.bodyStart text) = .error error) :
    validate text = .error (.formula error) := by
  rw [validate, ofText?, if_neg (Nat.not_le.2 visible), lexed]
  rfl

theorem validate_refused (visible : Token.bodyStart text < text.length)
    (lexed : Token.tokenize text (Token.bodyStart text) = .ok tokens)
    (read : ofTokens tokens = .error error) : validate text = .error (.formula error) := by
  rw [validate, ofText?, if_neg (Nat.not_le.2 visible), lexed]
  simp only [ok_bind, read, error_bind]

theorem ofText_parsed (parses : Parses text formula) :
    ofText? text = formula.checked >>= fun checked => .ok (some checked) := by
  obtain ⟨visible, tokens, lexed, read⟩ := parses
  rw [ofText?, if_neg (Nat.not_le.2 visible), lexed]
  simp only [ok_bind, read]
  rfl

theorem validate_fits (parses : Parses text formula) (fits : formula.Fits) :
    validate text = .ok (.boolean true) := by
  rw [validate, ofText_parsed parses, checked_ok_iff.2 ⟨fits, rfl⟩]
  rfl

theorem validate_unfit (parses : Parses text formula) (unfit : ¬ formula.Fits) :
    ∃ fault, validate text = .error fault ∧ fault.code = "function_error" := by
  rw [validate, ofText_parsed parses]
  cases result : formula.checked with
  | ok checked => exact absurd (checked_ok_iff.1 result).1 unfit
  | error error => exact ⟨.formula error, rfl, (checked_error result).1⟩

theorem validate_ok_cases {w : Value} (valid : validate text = .ok w) :
    text.length ≤ Token.bodyStart text ∨
      ∃ formula : Formula, Parses text formula ∧ formula.Fits := by
  cases stage text with
  | blank blank => exact .inl blank
  | unlexed visible error lexed =>
    rw [validate_unlexed visible lexed] at valid
    cases valid
  | refused visible tokens error lexed read =>
    rw [validate_refused visible lexed read] at valid
    cases valid
  | parsed formula parses =>
    right
    by_cases fits : formula.Fits
    · exact ⟨formula, parses, fits⟩
    · obtain ⟨fault, invalid, _⟩ := validate_unfit parses fits
      rw [valid] at invalid
      cases invalid

theorem parses_of_ofText (parsed : ofText? text = .ok (some formula)) :
    Parses text formula ∧ formula.Fits := by
  have valid : validate text = .ok (.boolean true) := by rw [validate, parsed]
  rcases validate_ok_cases valid with blank | ⟨other, parses, fits⟩
  · rw [validate_blank blank] at valid
    cases valid
  · rw [ofText_parsed parses, checked_ok_iff.2 ⟨fits, rfl⟩] at parsed
    cases parsed
    exact ⟨parses, fits⟩

variable (accessor : Option Accessor) (chain : Chain) (allowance : Allowance)

theorem evaluateWithin_blank (blank : text.length ≤ Token.bodyStart text) :
    evaluateWithin accessor chain allowance text = .ok .empty := by
  rw [evaluateWithin_eq, isBlankFormula, if_pos (decide_eq_true blank)]

theorem evaluateWithin_unlexed (visible : Token.bodyStart text < text.length)
    (lexed : Token.tokenize text (Token.bodyStart text) = .error error) :
    evaluateWithin accessor chain allowance text = .error (.formula error) := by
  rw [evaluateWithin_eq, isBlankFormula, decide_eq_false (Nat.not_le.2 visible), lexed]
  rfl

theorem evaluateWithin_lexed (visible : Token.bodyStart text < text.length)
    (lexed : Token.tokenize text (Token.bodyStart text) = .ok tokens) :
    evaluateWithin accessor chain allowance text =
      evaluateTokens (referenceValue accessor chain) allowance tokens := by
  rw [evaluateWithin_eq, isBlankFormula, decide_eq_false (Nat.not_le.2 visible), lexed]
  rfl

theorem evaluateWithin_parsed (parses : Parses text formula) :
    evaluateWithin accessor chain none text =
      formula.value (referenceValue accessor chain none) := by
  obtain ⟨visible, tokens, lexed, read⟩ := parses
  obtain ⟨body, mark, rfl, ended, derived⟩ := (ofTokens_ok_iff (tokenize_marked lexed)).1 read
  have compared : Bare.comparison (referenceValue accessor chain) none (body ++ [mark]) = _ :=
    evaluates derived [mark] (settled_of_kind ended (by decide) [])
  rw [evaluateWithin_lexed accessor chain none visible lexed, evaluateTokens_eq, compared]
  cases formula.value (referenceValue accessor chain none) with
  | error fault => rfl
  | ok v => simp only [ok_bind, current, ended, if_true]

/-- A text whose tokens are refused has no value: evaluation fails at the refused token, or with the
fault of a tree before it, and then with the same fault if the text ends there. -/
theorem evaluateWithin_refused (visible : Token.bodyStart text < text.length)
    (lexed : Token.tokenize text (Token.bodyStart text) = .ok tokens)
    (read : ofTokens tokens = .error error) :
    ∃ before found rest fault, tokens = before ++ found :: rest ∧
      error.position = some found.position ∧ error.cause.code = "parse_error" ∧
      evaluateWithin accessor chain none text = .error fault ∧
      ((fault.code = "parse_error" ∧ fault.position = found.position) ∨
        (∃ formula : Formula, formula.value (referenceValue accessor chain none) = .error fault) ∧
          ∀ mark : Token, mark.kind = .endOfInput →
            evaluateTokens (referenceValue accessor chain) none (before ++ [mark]) =
              .error fault) := by
  obtain ⟨before, found, rest, reached, rfl, spelled, refused, never⟩ :=
    ofTokens_error (tokenize_marked lexed) read
  have stops : Stops (referenceValue accessor chain)
      (evaluateTokens (referenceValue accessor chain) none) before found :=
    stops_of_refuses spelled refused
  have located := spelled.refused_at refused
  have same := evaluateWithin_lexed accessor chain none visible lexed
  rcases stops with ⟨fault, blames, failed⟩ | ⟨fault, arises, failed, ended⟩
  · refine ⟨before, found, rest, fault, rfl, located.1, located.2, same.trans (failed rest),
      .inl ?_⟩
    cases blames <;> exact ⟨rfl, rfl⟩
  · exact ⟨before, found, rest, fault, rfl, located.1, located.2, same.trans (failed rest),
      .inr ⟨arises, ended⟩⟩

theorem evaluateWithin_ok_cases {v : Value}
    (valued : evaluateWithin accessor chain none text = .ok v) :
    text.length ≤ Token.bodyStart text ∨ ∃ formula : Formula, Parses text formula ∧
      formula.value (referenceValue accessor chain none) = .ok v := by
  cases stage text with
  | blank blank => exact .inl blank
  | unlexed visible error lexed =>
    rw [evaluateWithin_unlexed accessor chain none visible lexed] at valued
    cases valued
  | refused visible tokens error lexed read =>
    obtain ⟨_, _, _, _, _, _, _, failed, _⟩ :=
      evaluateWithin_refused accessor chain visible lexed read
    rw [failed] at valued
    cases valued
  | parsed formula parses =>
    rw [evaluateWithin_parsed accessor chain parses] at valued
    exact .inr ⟨formula, parses, valued⟩

end Stages

def Flat (accessor : Option Accessor) : Prop :=
  ∀ reference cell, accessor.bind (· reference) = some cell → cell.isFormula = false

section Flatness

variable {accessor : Option Accessor} {chain : Chain} {fault : Fault}

theorem referenceValue_error_code (flat : Flat accessor) {allowance : Allowance} {token : Token}
    (failed : referenceValue accessor chain allowance token = .error fault) :
    fault.code = "ref_error" ∨ fault.code = "cyclic_reference" := by
  rw [referenceValue] at failed
  rcases bind_eq_error.1 failed with failed | ⟨cell, found, failed⟩
  · obtain ⟨cause, missing, rfl⟩ := mapError_eq_error.1 failed
    exact findCell_error_code missing
  · have plain := flat token.lexeme cell (findCell_ok_iff.1 (mapError_eq_ok.1 found)).2
    rw [plain] at failed
    cases failed

theorem value_error_code (flat : Flat accessor) {formula : Formula}
    (failed : formula.value (referenceValue accessor chain none) = .error fault) :
    (fault.code = "function_error" ∧ ¬ formula.Fits) ∨ fault.code = "division_by_zero" ∨
      fault.code = "ref_error" ∨ fault.code = "cyclic_reference" ∨
      fault.code = "numeric_overflow" := by
  rcases value_error failed with ⟨name, _, position, followed⟩ | unfit | divided | overflow
  · rcases referenceValue_error_code flat followed with missing | cyclic
    · exact .inr (.inr (.inl missing))
    · exact .inr (.inr (.inr (.inl cyclic)))
  · exact .inl unfit
  · exact .inr (.inl divided)
  · exact .inr (.inr (.inr (.inr overflow)))

theorem value_error_not_parse (flat : Flat accessor) {formula : Formula}
    (failed : formula.value (referenceValue accessor chain none) = .error fault) :
    fault.code ≠ "parse_error" := by
  rcases value_error_code flat failed with ⟨code, _⟩ | code | code | code | code <;>
    · rw [code]
      decide

end Flatness

section Passes

variable {accessor : Option Accessor} {chain : Chain} {allowance : Allowance} {text : String}
  {fault : Fault}

theorem validate_of_value {v : Value}
    (valued : evaluateWithin accessor chain allowance text = .ok v) :
    ∃ w, validate text = .ok w := by
  have free : evaluateWithin accessor chain none text = .ok v := by
    rw [← evaluateWithin_unlimited (by rw [valued]; simp), valued]
  rcases evaluateWithin_ok_cases accessor chain free with blank | ⟨formula, parses, result⟩
  · exact ⟨.empty, validate_blank blank⟩
  · exact ⟨.boolean true, validate_fits parses (value_ok result).1⟩

theorem validate_error_cases (invalid : validate text = .error fault) :
    (fault.code = "lex_error" ∧ ∃ error, fault = .formula error ∧
      Token.bodyStart text < text.length ∧
      Token.tokenize text (Token.bodyStart text) = .error error) ∨
    (fault.code = "parse_error" ∧ ∃ tokens error, fault = .formula error ∧
      Token.bodyStart text < text.length ∧
      Token.tokenize text (Token.bodyStart text) = .ok tokens ∧
      ofTokens tokens = .error error) ∨
    fault.code = "function_error" := by
  cases stage text with
  | blank blank =>
    rw [validate_blank blank] at invalid
    cases invalid
  | unlexed visible error lexed =>
    rw [validate_unlexed visible lexed] at invalid
    cases invalid
    exact .inl ⟨Token.scan_error_code lexed, error, rfl, visible, lexed⟩
  | refused visible tokens error lexed read =>
    rw [validate_refused visible lexed read] at invalid
    cases invalid
    obtain ⟨_, _, _, _, _, spelled, met, _⟩ := ofTokens_error (tokenize_marked lexed) read
    exact .inr (.inl ⟨(spelled.refused_at met).2, tokens, error, rfl, visible, lexed, read⟩)
  | parsed formula parses =>
    right
    right
    by_cases fits : formula.Fits
    · rw [validate_fits parses fits] at invalid
      cases invalid
    · obtain ⟨other, failed, code⟩ := validate_unfit parses fits
      rw [invalid] at failed
      cases failed
      exact code

theorem evaluate_of_lex_error (invalid : validate text = .error fault)
    (code : fault.code = "lex_error") :
    evaluateWithin accessor chain allowance text = .error fault := by
  rcases validate_error_cases invalid with ⟨_, error, rfl, visible, lexed⟩ | ⟨other, _⟩ | other
  · exact evaluateWithin_unlexed accessor chain allowance visible lexed
  · exact absurd (code.symm.trans other) (by decide)
  · exact absurd (code.symm.trans other) (by decide)

theorem evaluate_of_validate (flat : Flat accessor) {w : Value} (valid : validate text = .ok w)
    (shallow : evaluateWithin accessor chain allowance text ≠ .error .nestedTooDeeply) :
    (∃ v, evaluateWithin accessor chain allowance text = .ok v) ∨
      ∃ fault, evaluateWithin accessor chain allowance text = .error fault ∧
        (fault.code = "division_by_zero" ∨ fault.code = "ref_error" ∨
          fault.code = "cyclic_reference" ∨ fault.code = "numeric_overflow") := by
  rw [evaluateWithin_unlimited shallow]
  rcases validate_ok_cases valid with blank | ⟨formula, parses, fits⟩
  · exact .inl ⟨.empty, evaluateWithin_blank accessor chain none blank⟩
  · rw [evaluateWithin_parsed accessor chain parses]
    cases result : formula.value (referenceValue accessor chain none) with
    | ok v => exact .inl ⟨v, rfl⟩
    | error fault =>
      rcases value_error_code flat result with ⟨_, unfit⟩ | code
      · exact absurd fits unfit
      · exact .inr ⟨fault, rfl, code⟩

theorem validate_of_parse_error (flat : Flat accessor)
    (failed : evaluateWithin accessor chain allowance text = .error fault)
    (code : fault.code = "parse_error") :
    ∃ other, validate text = .error other ∧ other.code = "parse_error" ∧
      other.position = fault.position := by
  have free : evaluateWithin accessor chain none text = .error fault := by
    rw [← evaluateWithin_unlimited, failed]
    rintro deep
    rw [failed] at deep
    cases deep
    exact absurd code (by decide)
  cases stage text with
  | blank blank =>
    rw [evaluateWithin_blank accessor chain none blank] at free
    cases free
  | unlexed visible error lexed =>
    rw [evaluateWithin_unlexed accessor chain none visible lexed] at free
    cases free
    have unlexed : error.cause.code = "lex_error" := Token.scan_error_code lexed
    exact absurd (code.symm.trans unlexed) (by decide)
  | refused visible tokens error lexed read =>
    obtain ⟨before, found, rest, reason, rfl, located, parse, evaluated, met⟩ :=
      evaluateWithin_refused accessor chain visible lexed read
    rw [evaluated] at free
    cases free
    refine ⟨.formula error, validate_refused visible lexed read, parse, ?_⟩
    rcases met with ⟨_, position⟩ | ⟨⟨formula, valued⟩, _⟩
    · rw [position, Fault.position, located]
      rfl
    · exact absurd code (value_error_not_parse flat valued)
  | parsed formula parses =>
    rw [evaluateWithin_parsed accessor chain parses] at free
    exact absurd code (value_error_not_parse flat free)

theorem evaluate_of_parse_error (flat : Flat accessor) (invalid : validate text = .error fault)
    (code : fault.code = "parse_error")
    (shallow : evaluateWithin accessor chain allowance text ≠ .error .nestedTooDeeply) :
    ∃ other, evaluateWithin accessor chain allowance text = .error other ∧
      ((other.code = "parse_error" ∧ other.position = fault.position) ∨
        other.code ≠ "parse_error" ∧
          evaluateWithin accessor chain none (String.ofList (text.toList.take fault.position)) =
            .error other) := by
  rw [evaluateWithin_unlimited shallow]
  rcases validate_error_cases invalid with ⟨other, _⟩ |
    ⟨_, tokens, error, rfl, visible, lexed, read⟩ | other
  · exact absurd (code.symm.trans other) (by decide)
  · obtain ⟨before, found, rest, reason, rfl, located, _, evaluated, met⟩ :=
      evaluateWithin_refused accessor chain visible lexed read
    have position : (Fault.formula error).position = found.position := by
      rw [Fault.position, located]
      rfl
    refine ⟨reason, evaluated, ?_⟩
    rw [position]
    rcases met with direct | ⟨⟨formula, valued⟩, cut_off⟩
    · exact .inl direct
    · have other := value_error_not_parse flat valued
      have nonempty : before ≠ [] := by
        rintro rfl
        -- A first token that is refused is met at once, and so is the mark in its place.
        have ended := cut_off (Token.finish 0) rfl
        simp only [List.nil_append, evaluateTokens_eq, Bare.comparison_eq, Bare.sum_eq,
          Bare.product_eq, Bare.factor_cons, Token.finish, error_bind] at ended
        cases ended
        exact other rfl
      obtain ⟨longer, cut_lexed⟩ := Token.tokenize_cut nonempty lexed
      refine .inr ⟨other, ?_⟩
      rw [evaluateWithin_lexed accessor chain none longer cut_lexed]
      exact cut_off (Token.finish found.position) rfl
  · exact absurd (code.symm.trans other) (by decide)

end Passes

/-- Evaluating tokens as they are read comes to what evaluating the tree of the text comes to, with
the same fault if it fails. -/
theorem evaluateWithin_eq_value (accessor : Option Accessor) (chain : Chain)
    (allowance : Allowance) (text : String) (formula : Formula)
    (parsed : ofText? text = .ok (some formula))
    (shallow : evaluateWithin accessor chain allowance text ≠ .error .nestedTooDeeply) :
    evaluateWithin accessor chain allowance text =
      formula.value (referenceValue accessor chain none) := by
  rw [evaluateWithin_unlimited shallow]
  cases stage text with
  | blank blank =>
    rw [ofText?, if_pos blank] at parsed
    cases parsed
  | unlexed visible error lexed =>
    rw [ofText?, if_neg (Nat.not_le.2 visible), lexed] at parsed
    cases parsed
  | refused visible tokens error lexed read =>
    rw [ofText?, if_neg (Nat.not_le.2 visible), lexed] at parsed
    simp only [ok_bind, read, error_bind] at parsed
    cases parsed
  | parsed other parses =>
    rw [ofText_parsed parses] at parsed
    obtain ⟨checked, accepted, same⟩ := bind_eq_ok.1 parsed
    cases same
    obtain ⟨_, rfl⟩ := checked_ok_iff.1 accepted
    exact evaluateWithin_parsed accessor chain parses

/-- The right operand is missing, and the sum fails there. -/
theorem evaluateWithin_eq_value_missing :
    let cells : Accessor := fun name => if name = "A1" then some ⟨"A1", "", .empty⟩ else none
    let chain := Chain.start none 64 (by decide)
    (Formula.binary .add 3 (.reference "A1" 0) (.reference "B1" 6)).value
      (referenceValue (some cells) chain none) =
        .error (.formula ((Cause.cellNotFound "B1").at 6)) := by
  intro cells chain
  have lexed : Token.tokenize "A1 + (B1)" (Token.bodyStart "A1 + (B1)") =
      .ok [⟨.cellReference, "A1", 0⟩, ⟨.plus, "+", 3⟩, ⟨.leftParen, "(", 5⟩,
        ⟨.cellReference, "B1", 6⟩, ⟨.rightParen, ")", 8⟩, ⟨.endOfInput, "", 9⟩] := by cbv
  have visible : Token.bodyStart "A1 + (B1)" < "A1 + (B1)".length := by cbv
  have known (allowance : Allowance) :
      referenceValue (some cells) chain allowance ⟨.cellReference, "A1", 0⟩ = .ok .empty := rfl
  have missing (allowance : Allowance) :
      referenceValue (some cells) chain allowance ⟨.cellReference, "B1", 6⟩ =
        .error (.formula ((Cause.cellNotFound "B1").at 6)) := rfl
  have evaluated : evaluateWithin (some cells) chain Allowance.standard "A1 + (B1)" =
      .error (.formula ((Cause.cellNotFound "B1").at 6)) := by
    rw [evaluateWithin_lexed _ _ _ visible lexed]
    simp only [evaluateTokens_eq, Bare.comparison_eq, Bare.sum_eq, Bare.product_eq,
      Bare.factor_cons, known, missing, ok_bind, Bare.multipliers_cons, TokenKind.product?,
      Bare.addends_cons, TokenKind.sum?]
    rfl
  rw [← evaluateWithin_eq_value (some cells) chain Allowance.standard "A1 + (B1)" _ _ _, evaluated]
  · rw [ofText_parsed ⟨visible, _, lexed, rfl⟩]
    rfl
  · rw [evaluated]
    simp

/-- The check and the evaluation of a text. A text with a value is valid, and what has no tokens for
one has none for the other. If no cell holds a formula, then a valid text fails only for what its
cells and numbers are, and both report a refused token at the same place; evaluation may fail before
it gets there, with the fault that it meets in the text up to that token. -/
theorem passes_agree (accessor : Option Accessor) (chain : Chain) (allowance : Allowance)
    (text : String) :
    (∀ v, evaluateWithin accessor chain allowance text = .ok v → ∃ w, validate text = .ok w) ∧
    (∀ fault, validate text = .error fault → fault.code = "lex_error" →
      evaluateWithin accessor chain allowance text = .error fault) ∧
    (Flat accessor →
      (∀ w, validate text = .ok w →
        evaluateWithin accessor chain allowance text ≠ .error .nestedTooDeeply →
        (∃ v, evaluateWithin accessor chain allowance text = .ok v) ∨
          ∃ fault, evaluateWithin accessor chain allowance text = .error fault ∧
            (fault.code = "division_by_zero" ∨ fault.code = "ref_error" ∨
              fault.code = "cyclic_reference" ∨ fault.code = "numeric_overflow")) ∧
      (∀ fault, evaluateWithin accessor chain allowance text = .error fault →
        fault.code = "parse_error" →
        ∃ other, validate text = .error other ∧ other.code = "parse_error" ∧
          other.position = fault.position) ∧
      ∀ fault, validate text = .error fault → fault.code = "parse_error" →
        evaluateWithin accessor chain allowance text ≠ .error .nestedTooDeeply →
        ∃ other, evaluateWithin accessor chain allowance text = .error other ∧
          ((other.code = "parse_error" ∧ other.position = fault.position) ∨
            other.code ≠ "parse_error" ∧
              evaluateWithin accessor chain none
                (String.ofList (text.toList.take fault.position)) = .error other)) := by
  refine ⟨fun v valued => validate_of_value valued,
    fun fault invalid code => evaluate_of_lex_error invalid code, fun flat => ⟨?_, ?_, ?_⟩⟩
  · intro w valid shallow
    exact evaluate_of_validate flat valid shallow
  · intro fault failed code
    exact validate_of_parse_error flat failed code
  · intro fault invalid code shallow
    exact evaluate_of_parse_error flat invalid code shallow

/-- Without cells the first reference fails before the second one is refused. -/
theorem passes_agree_juxtaposed :
    let chain := Chain.start none 64 (by decide)
    ∃ other, evaluateWithin none chain Allowance.standard "A1 B1" = .error other ∧
      other.code ≠ "parse_error" ∧ evaluateWithin none chain none "A1 " = .error other := by
  intro chain
  have lexed : Token.tokenize "A1 B1" (Token.bodyStart "A1 B1") =
      .ok [⟨.cellReference, "A1", 0⟩, ⟨.cellReference, "B1", 3⟩, ⟨.endOfInput, "", 5⟩] := by cbv
  have visible : Token.bodyStart "A1 B1" < "A1 B1".length := by cbv
  have missing (allowance : Allowance) :
      referenceValue none chain allowance ⟨.cellReference, "A1", 0⟩ =
        .error (.formula (Cause.noAccessor.at 0)) := rfl
  have evaluated : evaluateWithin none chain Allowance.standard "A1 B1" =
      .error (.formula (Cause.noAccessor.at 0)) := by
    rw [evaluateWithin_lexed _ _ _ visible lexed]
    simp only [evaluateTokens_eq, Bare.comparison_eq, Bare.sum_eq, Bare.product_eq,
      Bare.factor_cons, missing, error_bind]
  have refused : validate "A1 B1" =
      .error (.formula (.unexpected ⟨.cellReference, "B1", 3⟩)) :=
    validate_refused visible lexed rfl
  have flat : Flat none := by
    intro reference cell found
    cases found
  have shallow : evaluateWithin none chain Allowance.standard "A1 B1" ≠
      .error .nestedTooDeeply := by
    rw [evaluated]
    simp
  obtain ⟨_, _, agree⟩ := passes_agree none chain Allowance.standard "A1 B1"
  obtain ⟨_, _, parse⟩ := agree flat
  obtain ⟨other, failed, met⟩ := parse _ refused rfl shallow
  refine ⟨other, failed, ?_⟩
  rcases met with ⟨code, _⟩ | ⟨code, cut⟩
  · rw [evaluated] at failed
    cases failed
    exact absurd code (by decide)
  · exact ⟨code, cut⟩

end FormulaGrid.Evaluation
