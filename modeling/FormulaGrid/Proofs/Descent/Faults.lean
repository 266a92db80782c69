import FormulaGrid.Proofs.Context
import FormulaGrid.Proofs.Mention

/-! What an evaluation can fail with. A descent over tokens fails for the tokens themselves, or for
the numbers that it computes, or as one of the references fails that it follows. -/
namespace FormulaGrid.Evaluation

open FormulaGrid.Failure FormulaGrid.Grammar

/-- Whether a property holds of all faults to which certain tokens lead by themselves, whatever
references stand for. -/
structure Admits (among : Token → Prop) (holds : Fault → Prop) : Prop where
  unexpected {token : Token} (member : among token) : holds (.formula (.unexpected token))
  expected {token : Token} (member : among token) (kind : TokenKind) :
    holds (.formula (.expected kind token))
  placed {token : Token} (member : among token) {cause : Cause} (own : Own cause) :
    holds (.formula (cause.at token.position))
  numeric (signal : Decimal.Signal) : holds (.numeric signal)
  deep : holds .nestedTooDeeply

variable {among : Token → Prop} {holds : Fault → Prop}

/-- A descent compared with itself, to say something of its faults. What it is allowed is limited
from the start. -/
def Admits.likeness (admits : Admits among holds) (limit : Allowance) : Likeness where
  lost _ := False
  faults fault other := fault = other ∧ holds fault
  allowances a b := a = b ∧ Allowance.AtMost a limit
  tokens t u := t = u ∧ among t
  parts tokens others := ∃ mark : Token, mark.kind = .endOfInput ∧ among mark ∧
    tokens = [mark] ∧ others = [mark]
  kind same := congrArg Token.kind same.1
  lexeme same := congrArg Token.lexeme same.1
  unexpected := by
    rintro t _ ⟨rfl, member⟩
    exact ⟨rfl, admits.unexpected member⟩
  expected := by
    rintro t _ ⟨rfl, member⟩ kind
    exact ⟨rfl, admits.expected member kind⟩
  placed := by
    rintro t _ ⟨rfl, member⟩ cause own
    exact ⟨rfl, admits.placed member own⟩
  numeric := by
    rintro signal _ rfl
    exact ⟨rfl, admits.numeric signal⟩
  spend := by
    rintro allowance _ ⟨rfl, limited⟩ share
    cases spent : allowance.spend share with
    | error fault =>
      obtain rfl := spend_eq_error spent
      exact .failed _ _ ⟨rfl, admits.deep⟩
    | ok left => exact .done left left ⟨rfl, atMost_trans (atMost_of_spend spent) limited⟩
  parting := by
    rintro tokens others ⟨mark, ended, member, rfl, rfl⟩
    exact .finished mark mark [] [] ended ended ⟨rfl, admits.unexpected member⟩
      fun kind => ⟨rfl, admits.expected member kind⟩

theorem Admits.lists (admits : Admits among holds) (limit : Allowance) {tokens : List Token}
    (marked : Marked tokens) (all : ∀ token ∈ tokens, among token) :
    (admits.likeness limit).Lists tokens tokens := by
  obtain ⟨body, mark, rfl, ended, inside⟩ := marked
  clear inside
  induction body with
  | nil => exact .apart ⟨mark, ended, all mark (by simp), rfl, rfl⟩
  | cons token body ih =>
    obtain ⟨first, rest⟩ := List.forall_mem_cons.1 all
    exact .cons ⟨rfl, first⟩ (ih rest)

theorem Admits.evaluateTokens (admits : Admits among holds)
    {follow : Allowance → Token → Outcome} {allowance : Allowance} {tokens : List Token}
    {fault : Fault} (marked : Marked tokens) (all : ∀ token ∈ tokens, among token)
    (follows : ∀ left token fault, Allowance.AtMost left allowance → among token →
      token.kind = .cellReference → follow left token = .error fault → holds fault)
    (failed : evaluateTokens follow allowance tokens = .error fault) : holds fault := by
  have alike : Alike (fun _ => False) (admits.likeness allowance).faults Eq
      (Evaluation.evaluateTokens follow allowance tokens)
      (Evaluation.evaluateTokens follow allowance tokens) := by
    refine evaluateTokens_alike (admits.likeness allowance) (admits.lists allowance marked all)
      ⟨rfl, atMost_refl allowance⟩ ⟨?_, ?_⟩ ?_
    · rintro a _ t _ refers ⟨rfl, limited⟩ ⟨rfl, member⟩
      cases followed : follow a t with
      | error fault => exact .failed _ _ ⟨rfl, follows a t fault limited member refers followed⟩
      | ok v => exact .done v v rfl
    · rintro _ _ _ _ _ refers _ ⟨mark, ended, _, ⟨⟩, _⟩
      rw [ended] at refers
      cases refers
    · rintro _ _ _ ⟨mark, ended, _, _, rfl⟩ _ closing same closes
      cases same
      rw [ended] at closes
      cases closes
  rw [failed] at alike
  cases alike with
  | lost _ gone => exact gone.elim
  | failed _ _ same => exact same.2

/-- What holds of the faults of a text's own tokens and of the references among them holds of every
fault of the text. References are followed with what is left of the allowance. -/
theorem Admits.evaluateWithin_limited (admits : Admits among holds) {accessor : Option Accessor}
    {chain : Chain} {allowance : Allowance} {text : String} {fault : Fault}
    (lexical : ∀ error, Token.tokenize text (Token.bodyStart text) = .error error →
      holds (.formula error))
    (all : ∀ tokens, Token.tokenize text (Token.bodyStart text) = .ok tokens →
      ∀ token ∈ tokens, among token)
    (follows : ∀ left token fault, Allowance.AtMost left allowance → among token →
      token.kind = .cellReference → referenceValue accessor chain left token = .error fault →
      holds fault)
    (failed : evaluateWithin accessor chain allowance text = .error fault) : holds fault := by
  rw [evaluateWithin_eq] at failed
  split at failed
  · cases failed
  · cases lexed : Token.tokenize text (Token.bodyStart text) with
    | error error =>
      rw [lexed] at failed
      cases failed
      exact lexical error lexed
    | ok tokens =>
      rw [lexed] at failed
      exact admits.evaluateTokens (tokenize_marked lexed) (all tokens lexed) follows failed

theorem Admits.evaluateWithin (admits : Admits among holds) {accessor : Option Accessor}
    {chain : Chain} {allowance : Allowance} {text : String} {fault : Fault}
    (lexical : ∀ error, Token.tokenize text (Token.bodyStart text) = .error error →
      holds (.formula error))
    (all : ∀ tokens, Token.tokenize text (Token.bodyStart text) = .ok tokens →
      ∀ token ∈ tokens, among token)
    (follows : ∀ allowance token fault, among token → token.kind = .cellReference →
      referenceValue accessor chain allowance token = .error fault → holds fault)
    (failed : evaluateWithin accessor chain allowance text = .error fault) : holds fault :=
  admits.evaluateWithin_limited lexical all
    (fun left token fault _ => follows left token fault) failed

end FormulaGrid.Evaluation
