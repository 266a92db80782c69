import FormulaGrid.Formula.Check
import FormulaGrid.Proofs.Lexing
import FormulaGrid.Proofs.Pushdown.Viability

/-! The syntax of texts. The check of a text's tokens accepts the formulas of the grammar and no
other tokens, and it reports the first token that no formula can have in its place. -/
namespace FormulaGrid.Grammar

open FormulaGrid.Formula FormulaGrid.Failure

/-- Tokens of which the last one, and no other, is the mark of the end. -/
def Marked (tokens : List Token) : Prop :=
  ∃ body mark, tokens = body ++ [mark] ∧ mark.kind = .endOfInput ∧
    ∀ token ∈ body, token.kind ≠ .endOfInput

theorem tokenize_marked {text : String} {offset : Nat} {tokens : List Token}
    (lexed : Token.tokenize text offset = .ok tokens) : Marked tokens := by
  obtain ⟨body, rfl, inside⟩ := (Token.scan_ok_iff.1 lexed).marked
  exact ⟨body, _, rfl, rfl, inside⟩

def Parses (text : String) (formula : Formula) : Prop :=
  Token.bodyStart text < text.length ∧ ∃ tokens,
    Token.tokenize text (Token.bodyStart text) = .ok tokens ∧ ofTokens tokens = .ok formula

section Tokens

variable {tokens : List Token}

theorem Marked.exists_mark (marked : Marked tokens) : ∃ mark ∈ tokens, mark.kind = .endOfInput := by
  obtain ⟨body, mark, rfl, ended, _⟩ := marked
  exact ⟨mark, by simp, ended⟩

theorem Marked.rest_eq_nil {before rest : List Token} {mark : Token}
    (marked : Marked (before ++ mark :: rest)) (ended : mark.kind = .endOfInput) : rest = [] := by
  obtain ⟨body, last, all, _, inside⟩ := marked
  rcases List.eq_nil_or_concat rest with rfl | ⟨others, final, rfl⟩
  · rfl
  · exfalso
    have regrouped : (before ++ mark :: others) ++ [final] = body ++ [last] := by simpa using all
    obtain ⟨rfl, _⟩ := List.append_inj' regrouped rfl
    exact inside mark (by simp) ended

theorem ofTokens_ok_iff {formula : Formula} (marked : Marked tokens) :
    ofTokens tokens = .ok formula ↔
      ∃ body mark, tokens = body ++ [mark] ∧ mark.kind = .endOfInput ∧
        Derives (.comparison formula) body := by
  constructor
  · intro read
    obtain ⟨body, mark, rest, rfl, ended, derived⟩ :=
      spells_start.read_ok marked.exists_mark read
    obtain rfl := marked.rest_eq_nil ended
    exact ⟨body, mark, rfl, ended, derived⟩
  · rintro ⟨body, mark, rfl, ended, derived⟩
    exact derived.read ended []

theorem ofTokens_error {error : FormulaError} (marked : Marked tokens)
    (read : ofTokens tokens = .error error) :
    ∃ before found rest reached, tokens = before ++ found :: rest ∧ Spells reached before ∧
      Refuses reached found error ∧ ¬ Begins (before ++ [found]) := by
  obtain ⟨before, found, rest, reached, rfl, spelled, refused, always⟩ :=
    spells_start.read_error marked.exists_mark read
  refine ⟨before, found, rest, reached, rfl, spelled, refused, ?_⟩
  rintro ⟨others, sentence, mark, whole, ended, formula, derived⟩
  have accepted := derived.read ended []
  rw [← whole, List.append_assoc] at accepted
  have rejected : ofTokens (before ++ ([found] ++ others)) = .error error := always others
  rw [rejected] at accepted
  cases accepted

end Tokens

/-- The check accepts exactly the formulas of the grammar. Otherwise it reports the first token
that cannot follow those before it, and it names a kind of token only if one of that kind could. -/
theorem ofTokens_exact (text : String) (tokens : List Token)
    (visible : Token.bodyStart text < text.length)
    (lexed : Token.tokenize text (Token.bodyStart text) = .ok tokens) :
    ((∃ formula, ofTokens tokens = .ok formula) ↔ Complete tokens) ∧
    ∀ error, ofTokens tokens = .error error →
      validate text = .error (.formula error) ∧
      ∃ before found rest, tokens = before ++ found :: rest ∧
        error.position = some found.position ∧ error.cause.code = "parse_error" ∧
        Begins before ∧ ¬ Begins (before ++ [found]) ∧
        (error = .unexpected found ∨
          ∃ kind, error = .expected kind found ∧
            ∀ other : Token, other.kind = kind → Begins (before ++ [other])) := by
  have marked := tokenize_marked lexed
  refine ⟨⟨?_, ?_⟩, ?_⟩
  · rintro ⟨formula, read⟩
    obtain ⟨body, mark, whole, ended, derived⟩ := (ofTokens_ok_iff marked).1 read
    exact ⟨body, mark, whole, ended, formula, derived⟩
  · rintro ⟨body, mark, whole, ended, formula, derived⟩
    exact ⟨formula, (ofTokens_ok_iff marked).2 ⟨body, mark, whole, ended, derived⟩⟩
  · intro error read
    obtain ⟨before, found, rest, reached, rfl, spelled, refused, never⟩ :=
      ofTokens_error marked read
    constructor
    · simp [validate, ofText?, Nat.not_le.2 visible, lexed, read]
    · obtain ⟨position, code⟩ := spelled.refused_at refused
      exact ⟨before, found, rest, rfl, position, code, spelled.begins, never,
        spelled.refused refused⟩

theorem ofTokens_exact_juxtaposed :
    ∃ before found rest,
      [⟨.leftParen, "(", 1⟩, ⟨.number, "1", 2⟩, ⟨.number, "2", 4⟩, ⟨.endOfInput, "", 5⟩] =
        before ++ found :: rest ∧
      found.position = 4 ∧ Begins before ∧ ¬ Begins (before ++ [found]) := by
  obtain ⟨_, rejected⟩ := ofTokens_exact "=(1 2"
    [⟨.leftParen, "(", 1⟩, ⟨.number, "1", 2⟩, ⟨.number, "2", 4⟩, ⟨.endOfInput, "", 5⟩]
    (by cbv) (by cbv)
  obtain ⟨_, before, found, rest, whole, position, _, begins, never, _⟩ :=
    rejected (.unexpected ⟨.number, "2", 4⟩) rfl
  exact ⟨before, found, rest, whole, (Option.some.inj position).symm, begins, never⟩

end FormulaGrid.Grammar
