import FormulaGrid.Proofs.Descent.Faults
import FormulaGrid.Proofs.Segmentation

/-! Where errors come from. A text raises an error at one of its own tokens or where it cannot be
scanned, or a reference leads to a formula that raises it. Then the same cause shows in the text,
without an offset, however many formulas lie between. -/
namespace FormulaGrid.Evaluation

open FormulaGrid.Failure FormulaGrid.Grammar

/-- The errors that a token of a formula leads to by itself. A reference does where it is open or
not there, and where it holds a formula but finds the chain full. -/
inductive RaisesAt (accessor : Option Accessor) (chain : Chain) (token : Token) :
    FormulaError → Prop
  | unexpected : RaisesAt accessor chain token (.unexpected token)
  | expected (kind : TokenKind) : RaisesAt accessor chain token (.expected kind token)
  | own (cause : Cause) (own : Own cause) : RaisesAt accessor chain token (cause.at token.position)
  | unresolved (cause : Cause) (refers : token.kind = .cellReference)
      (failed : findCell accessor chain token.lexeme = .error cause) :
      RaisesAt accessor chain token (cause.at token.position)
  | refused (cell : Snapshot) (cause : Cause) (refers : token.kind = .cellReference)
      (found : findCell accessor chain token.lexeme = .ok cell) (formula : cell.isFormula)
      (failed : chain.enter token.lexeme = .error cause) :
      RaisesAt accessor chain token (cause.at token.position)

inductive Raises (accessor : Option Accessor) (chain : Chain) (text : String) :
    FormulaError → Prop
  | lexical (error : FormulaError)
      (failed : Token.tokenize text (Token.bodyStart text) = .error error) :
      Raises accessor chain text error
  | token (tokens : List Token) (token : Token) (error : FormulaError)
      (lexed : Token.tokenize text (Token.bodyStart text) = .ok tokens) (member : token ∈ tokens)
      (raises : RaisesAt accessor chain token error) : Raises accessor chain text error

/-- Whether an offset of a text is where an error has its place: where a token begins, or where
scanning finds no lexeme. -/
def Located (text : String) (cause : Cause) (p : Nat) : Prop :=
  (∃ tokens, Token.tokenize text (Token.bodyStart text) = .ok tokens ∧
    ∃ token ∈ tokens, token.position = p) ∨
  cause.code = "lex_error" ∧
    Token.tokenize text (Token.bodyStart text) = .error (cause.at p) ∧
    Token.Stuck p cause (text.toList.drop p)

/-- A path of references to formulas, from a text to the formula that the last one leads to. -/
inductive Leads (accessor : Option Accessor) : String → List String → String → Prop
  | nil (text : String) : Leads accessor text [] text
  | step (text name target : String) (cell : Snapshot) (path : List String)
      (mentioned : name ∈ mentions text) (found : accessor.bind (· name) = some cell)
      (formula : cell.isFormula) (more : Leads accessor cell.rawExpression path target) :
      Leads accessor text (name :: path) target

/-- A chain with the references of a path open as well. -/
structure Entered (chain : Chain) (path : List String) (inner : Chain) : Prop where
  references : inner.references = chain.references ++ path
  maxDepth : inner.maxDepth = chain.maxDepth

section Steps

variable {accessor : Option Accessor} {chain inner : Chain} {allowance : Allowance}
  {text name : String} {error : FormulaError}

theorem RaisesAt.position {token : Token} (raises : RaisesAt accessor chain token error) :
    error.position = some token.position := by
  cases raises <;> rfl

theorem Raises.located (raises : Raises accessor chain text error) :
    ∃ p, error.position = some p ∧ Located text error.cause p := by
  cases raises with
  | lexical _ failed =>
    have within : Token.bodyStart text ≤ text.length := Nat.sub_le _ _
    obtain ⟨p, cause, rfl, _, _, stuck, _⟩ := Token.tokenize_stuck within failed
    exact ⟨p, rfl, .inr ⟨Token.scan_error_code failed, failed, stuck⟩⟩
  | token tokens token _ lexed member raises =>
    exact ⟨token.position, raises.position, .inl ⟨tokens, lexed, token, member, rfl⟩⟩

theorem Entered.enter (entered : chain.enter name = .ok inner) : Entered chain [name] inner :=
  ⟨Chain.references_enter entered, Chain.maxDepth_enter entered⟩

theorem Entered.trans {middle : Chain} {path more : List String} (first : Entered chain path middle)
    (second : Entered middle more inner) : Entered chain (path ++ more) inner := by
  refine ⟨?_, second.maxDepth.trans first.maxDepth⟩
  rw [second.references, first.references, List.append_assoc]

/-- An error surfaces in the text that raises it, and in every text that refers to a formula in
which it surfaces. -/
inductive Surfaces (accessor : Option Accessor) (chain : Chain) (allowance : Allowance)
    (text : String) : FormulaError → Prop
  | raised (error : FormulaError) (raises : Raises accessor chain text error) :
      Surfaces accessor chain allowance text error
  | within (name : String) (cell : Snapshot) (inner : Chain) (left : Allowance)
      (error : FormulaError) (mentioned : name ∈ mentions text)
      (found : accessor.bind (· name) = some cell) (formula : cell.isFormula)
      (entered : chain.enter name = .ok inner) (limited : Allowance.AtMost left allowance)
      (failed : evaluateWithin accessor inner left cell.rawExpression = .error (.formula error)) :
      Surfaces accessor chain allowance text error.elsewhere

theorem referenceValue_surfaces {token : Token} {tokens : List Token} {left : Allowance}
    {fault : Fault} (lexed : Token.tokenize text (Token.bodyStart text) = .ok tokens)
    (member : token ∈ tokens) (refers : token.kind = .cellReference)
    (limited : Allowance.AtMost left allowance)
    (failed : referenceValue accessor chain left token = .error fault)
    (same : fault = .formula error) : Surfaces accessor chain allowance text error := by
  subst same
  rw [referenceValue] at failed
  cases found : findCell accessor chain token.lexeme with
  | error cause =>
    rw [found] at failed
    cases failed
    exact .raised _ (.token tokens token _ lexed member (.unresolved cause refers found))
  | ok cell =>
    rw [found, mapError_ok, ok_bind] at failed
    split at failed
    next formula =>
      cases entered : chain.enter token.lexeme with
      | error cause =>
        rw [entered] at failed
        cases failed
        exact .raised _
          (.token tokens token _ lexed member (.refused cell cause refers found formula entered))
      | ok inner =>
        rw [entered, mapError_ok, ok_bind] at failed
        rcases bind_eq_error.1 failed with short | ⟨rest, spent, failed⟩
        · cases spend_eq_error short
        · obtain ⟨reason, evaluated, shown⟩ := mapError_eq_error.1 failed
          obtain ⟨original, rfl⟩ : ∃ original, reason = .formula original := by
            cases reason <;> cases shown
            exact ⟨_, rfl⟩
          cases shown
          exact .within token.lexeme cell inner rest original
            (lexeme_mem_mentions lexed member refers) (findCell_ok_iff.1 found).2 formula entered
            (atMost_trans (atMost_of_spend spent) limited) evaluated
    next => cases failed

theorem admits_surfaces (accessor : Option Accessor) (chain : Chain) (allowance : Allowance)
    {tokens : List Token} (lexed : Token.tokenize text (Token.bodyStart text) = .ok tokens) :
    Admits (fun token => token ∈ tokens)
      (fun fault => ∀ error, fault = .formula error →
        Surfaces accessor chain allowance text error) where
  unexpected member := by
    rintro _ ⟨⟩
    exact .raised _ (.token tokens _ _ lexed member .unexpected)
  expected member kind := by
    rintro _ ⟨⟩
    exact .raised _ (.token tokens _ _ lexed member (.expected kind))
  placed member cause own := by
    rintro _ ⟨⟩
    exact .raised _ (.token tokens _ _ lexed member (.own cause own))
  numeric signal := nofun
  deep := nofun

theorem evaluateWithin_surfaces
    (failed : evaluateWithin accessor chain allowance text = .error (.formula error)) :
    Surfaces accessor chain allowance text error := by
  cases lexed : Token.tokenize text (Token.bodyStart text) with
  | error lexical =>
    rw [evaluateWithin_eq, lexed] at failed
    split at failed <;> cases failed
    exact .raised _ (.lexical _ lexed)
  | ok tokens =>
    refine (admits_surfaces accessor chain allowance lexed).evaluateWithin_limited (fun _ other => ?_)
      (fun others same token member => ?_)
      (fun left token fault limited member refers failed error same =>
        referenceValue_surfaces lexed member refers limited failed same) failed _ rfl
    · rw [lexed] at other
      cases other
    · rw [lexed] at same
      cases same
      exact member

end Steps

/-- An error that does not come from a text itself is raised by the formula at the end of a path of
references, evaluated with these open as well. It has lost no more than its offset on the way. -/
structure Relayed (accessor : Option Accessor) (chain : Chain) (allowance : Allowance)
    (text : String) (path : List String) (target : String) (inner : Chain)
    (raised : FormulaError) : Prop where
  nonempty : path ≠ []
  leads : Leads accessor text path target
  entered : Entered chain path inner
  raises : Raises accessor inner target raised
  failed : evaluateWithin accessor inner allowance target = .error (.formula raised)

theorem evaluateWithin_raised {accessor : Option Accessor} {chain : Chain} {allowance : Allowance}
    {text : String} {error : FormulaError}
    (failed : evaluateWithin accessor chain allowance text = .error (.formula error)) :
    Raises accessor chain text error ∨ ∃ path target inner raised,
      Relayed accessor chain allowance text path target inner raised ∧
        error = raised.elsewhere := by
  -- Every reference that is entered leaves less room in the chain.
  induction room : chain.room using Nat.strongRecOn generalizing chain allowance text error with
  | ind room ih =>
    cases evaluateWithin_surfaces failed with
    | raised _ raises => exact .inl raises
    | within name cell inner left reason mentioned found formula entered limited inside =>
      have less := Chain.room_enter entered
      have enough {chain : Chain} {text : String} {error : FormulaError}
          (failed : evaluateWithin accessor chain left text = .error (.formula error)) :
          evaluateWithin accessor chain allowance text = .error (.formula error) := by
        rw [← evaluateWithin_atMost limited (by rw [failed]; nofun), failed]
      right
      rcases ih inner.room (by omega) inside rfl with
        raises | ⟨path, target, innermost, raised, relayed, rfl⟩
      · exact ⟨[name], cell.rawExpression, inner, reason, ⟨by simp,
          .step text name _ cell [] mentioned found formula (.nil _), .enter entered, raises,
          enough inside⟩, rfl⟩
      · exact ⟨name :: path, target, innermost, raised, ⟨by simp,
          .step text name target cell path mentioned found formula relayed.leads,
          (Entered.enter entered).trans relayed.entered, relayed.raises, enough relayed.failed⟩, rfl⟩

/-- An error with an offset is raised by the text itself and has its place there. An error without
one is raised by the last formula on a path of references, with the same cause, and has its place
in that formula. What is reported of it is the same in both places but for the offset, so an offset
other than zero always refers to the text. -/
theorem error_provenance (accessor : Option Accessor) (chain : Chain) (allowance : Allowance)
    (text : String) (error : FormulaError)
    (failed : evaluateWithin accessor chain allowance text = .error (.formula error)) :
    ((∃ p, error.position = some p ∧ Raises accessor chain text error ∧
        Located text error.cause p) ∨
      error.position = none ∧ ∃ path target inner raised p,
        Relayed accessor chain allowance text path target inner raised ∧
        raised.cause = error.cause ∧ raised.position = some p ∧ Located target raised.cause p ∧
        (Fault.formula error).message = (Fault.formula raised).message ∧
        (Fault.formula error).code = (Fault.formula raised).code ∧
        (Fault.formula error).position = 0) ∧
    ((Fault.formula error).position ≠ 0 →
      Raises accessor chain text error ∧
        Located text error.cause (Fault.formula error).position) := by
  rcases evaluateWithin_raised failed with raises | ⟨path, target, inner, raised, relayed, rfl⟩
  · obtain ⟨p, placed, located⟩ := raises.located
    have reported : (Fault.formula error).position = p := by
      rw [Fault.position, placed]
      rfl
    exact ⟨.inl ⟨p, placed, raises, located⟩, fun _ => ⟨raises, reported ▸ located⟩⟩
  · obtain ⟨p, placed, located⟩ := relayed.raises.located
    exact ⟨.inr ⟨rfl, path, target, inner, raised, p, relayed, rfl, placed, located, rfl, rfl, rfl⟩,
      fun shown => absurd rfl shown⟩

theorem error_provenance_relayed :
    let cells : Accessor := fun name =>
      if name = "A1" then some ⟨"A1", "=B1", .empty⟩
      else if name = "B1" then some ⟨"B1", "=C1", .empty⟩
      else none
    ∃ path target inner raised p,
      Relayed (some cells) (Chain.start none 8 (by decide)) Allowance.standard "A1" path target
        inner raised ∧
      raised.cause = .cellNotFound "C1" ∧ raised.position = some p ∧
      Located target raised.cause p := by
  intro cells
  have failed : evaluateWithin (some cells) (Chain.start none 8 (by decide))
      Allowance.standard "A1" = .error (.formula ⟨.cellNotFound "C1", none⟩) := by cbv
  rcases (error_provenance (some cells) _ _ "A1" _ failed).1 with
    ⟨p, placed, _⟩ | ⟨_, path, target, inner, raised, p, relayed, same, placed, located, _⟩
  · cases placed
  · exact ⟨path, target, inner, raised, p, relayed, same, placed, located⟩

end FormulaGrid.Evaluation
