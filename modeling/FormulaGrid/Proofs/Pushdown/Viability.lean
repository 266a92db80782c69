import FormulaGrid.Proofs.Pushdown.Invariant

/-! Where reading stops. The tokens read so far can always be completed to a formula; a token that
is refused rules this out, because every formula is read to its end. -/
namespace FormulaGrid.Grammar

open FormulaGrid.Formula

theorem Begins.of_append {tokens more : List Token} (begins : Begins (tokens ++ more)) :
    Begins tokens := by
  obtain ⟨rest, complete⟩ := begins
  exact ⟨more ++ rest, by rwa [← List.append_assoc]⟩

theorem Opens.begins {brackets : List Bracket} {before tokens : List Token} {formula : Formula}
    (opens : Opens brackets before) (derived : Derives (.comparison formula) tokens) :
    Begins (before ++ tokens) := by
  induction opens generalizing tokens formula with
  | nothing => exact Sentence.begins ⟨formula, derived⟩
  | bracket bracket brackets before inside outer inner ih =>
    let closing : Token := ⟨.rightParen, "", 0⟩
    have inner_closed : ∃ whole, Derives (.comparison whole) (inside ++ (tokens ++ [closing])) := by
      cases inner with
      | group outside held opening holds opens =>
        simpa using holds.closed (.group opening closing _ _ opens rfl derived)
      | call outside held name opening arguments others holds function opens earlier =>
        have all := earlier.arguments (.lastArgument _ _ derived)
        simpa using holds.closed (.call name opening closing _ _ function opens rfl all)
    obtain ⟨whole, closed⟩ := inner_closed
    have begins := ih closed
    rw [← List.append_assoc, ← List.append_assoc] at begins
    exact begins.of_append

theorem Spells.begins {state : State} {before : List Token} (spelled : Spells state before) :
    Begins before := by
  -- A number can stand wherever an operand can, and an empty list after the name of a function.
  let numeral : Token := ⟨.number, "", 0⟩
  let opening : Token := ⟨.leftParen, "", 0⟩
  let closing : Token := ⟨.rightParen, "", 0⟩
  cases spelled with
  | operand brackets pending before tokens outer holds begun =>
    obtain ⟨whole, closed⟩ := holds.closed (.number numeral rfl)
    have begins := outer.begins closed
    rw [← List.append_assoc] at begins
    exact begins.of_append
  | callee brackets pending before tokens name outer holds function =>
    obtain ⟨whole, closed⟩ :=
      holds.closed (.emptyCall name opening closing function rfl rfl)
    have begins := outer.begins closed
    have regrouped : before ++ (tokens ++ [name, opening, closing]) =
        before ++ (tokens ++ [name]) ++ [opening, closing] := by simp
    rw [regrouped] at begins
    exact begins.of_append
  | firstArgument brackets _ awaits outer =>
    have numeric := Derives.ofSum _ _ (.ofProduct _ _ (.ofFactor _ _ (.number numeral rfl)))
    exact (outer.begins numeric).of_append
  | operated brackets pending before tokens last factor outer holds settled derived =>
    exact outer.begins (holds.comparison settled derived)

def Refuses (state : State) (token : Token) (error : FormulaError) : Prop :=
  if token.kind = .endOfInput then state.finish token = .error error
  else state.step token = .error error

/-- Whether a report on a token found behind others is right: only one kind of token is named as
expected, and such a token can follow them. -/
def Warranted (before : List Token) (found : Token) (error : FormulaError) : Prop :=
  error = .unexpected found ∨
    ∃ kind, error = .expected kind found ∧
      ∀ other : Token, other.kind = kind → Begins (before ++ [other])

section Refusal

variable {state : State} {before : List Token} {token : Token} {error : FormulaError}
  {brackets : List Bracket} {pending : Pending} {last whole : Formula}

theorem Spells.begins_of_step {other : Token} {next : State} (spelled : Spells state before)
    (stepped : state.step other = .ok next) : Begins (before ++ [other]) :=
  (spelled.step stepped).begins

theorem refused_readOperand (refused : state.readOperand token = .error error) :
    error = .unexpected token := by
  unfold State.readOperand at refused
  split at refused <;> cases refused
  rfl

theorem Spells.warranted_callee {name : String} {position : Nat}
    (spelled : Spells ⟨brackets, pending, .callee name position⟩ before) :
    Warranted before token (.expected .leftParen token) :=
  .inr ⟨.leftParen, rfl, fun _ opens => spelled.begins_of_step (step_callee opens)⟩

theorem Spells.warranted_end (spelled : Spells ⟨[], pending, .operated last⟩ before) :
    Warranted before token (.expected .endOfInput token) := by
  refine .inr ⟨.endOfInput, rfl, fun other mark => ?_⟩
  cases spelled with
  | operated _ _ _ tokens _ factor outer holds settled derived =>
    cases outer
    exact ⟨[], _, other, by simp, mark, _, holds.comparison settled derived⟩

theorem Spells.warranted_group {outside : Pending}
    (spelled : Spells ⟨.group outside :: brackets, pending, .operated last⟩ before) :
    Warranted before token (.expected .rightParen token) :=
  .inr ⟨.rightParen, rfl, fun _ closing => spelled.begins_of_step (step_closing closing)⟩

theorem Spells.refused_finish (spelled : Spells ⟨brackets, pending, .operated last⟩ before)
    (refused : State.finish ⟨brackets, pending, .operated last⟩ token = .error error) :
    Warranted before token error := by
  -- What can follow a whole factor depends on the innermost bracket alone.
  cases brackets with
  | nil => cases refused
  | cons bracket others =>
    cases bracket with
    | group outside =>
      cases refused
      exact spelled.warranted_group
    | call =>
      cases refused
      exact .inl rfl

theorem Spells.refused_closeBracket (spelled : Spells ⟨brackets, pending, .operated last⟩ before)
    (refused :
      State.closeBracket ⟨brackets, pending, .operated last⟩ whole token = .error error) :
    Warranted before token error := by
  cases brackets with
  | nil =>
    cases refused
    exact spelled.warranted_end
  | cons bracket others => cases bracket <;> cases refused

theorem Spells.refused_nextArgument (spelled : Spells ⟨brackets, pending, .operated last⟩ before)
    (refused :
      State.nextArgument ⟨brackets, pending, .operated last⟩ whole token = .error error) :
    Warranted before token error := by
  cases brackets with
  | nil =>
    cases refused
    exact spelled.warranted_end
  | cons bracket others =>
    cases bracket with
    | group outside =>
      cases refused
      exact spelled.warranted_group
    | call => cases refused

theorem Spells.refused_readOperator (spelled : Spells ⟨brackets, pending, .operated last⟩ before)
    (refused :
      State.readOperator ⟨brackets, pending, .operated last⟩ last token = .error error) :
    Warranted before token error := by
  unfold State.readOperator at refused
  dsimp only at refused
  split at refused
  · cases refused
  · cases refused
  · split at refused <;> cases refused
    exact .inl rfl
  · split at refused
    · exact spelled.refused_closeBracket refused
    · exact spelled.refused_nextArgument refused
    · cases refused
      exact .inl rfl

theorem Spells.refused (spelled : Spells state before) (refused : Refuses state token error) :
    Warranted before token error := by
  unfold Refuses at refused
  have reached := spelled
  cases spelled with
  | operand brackets pending before tokens outer holds begun =>
    left
    split at refused
    · cases refused
      rfl
    · exact refused_readOperand refused
  | callee brackets pending before tokens name outer holds function =>
    split at refused
    · cases refused
      exact reached.warranted_callee
    · simp only [State.step, State.readCallee] at refused
      split at refused <;> cases refused
      exact reached.warranted_callee
  | firstArgument brackets _ awaits outer =>
    left
    split at refused
    · cases refused
      rfl
    · simp only [State.step] at refused
      split at refused
      · cases refused
      · exact refused_readOperand refused
  | operated brackets pending before tokens last factor outer holds settled derived =>
    split at refused
    · exact reached.refused_finish refused
    · exact reached.refused_readOperator refused

theorem Spells.refused_at (spelled : Spells state before) (refused : Refuses state token error) :
    error.position = some token.position ∧ error.cause.code = "parse_error" := by
  rcases spelled.refused refused with rfl | ⟨kind, rfl, _⟩ <;> exact ⟨rfl, rfl⟩

end Refusal

section Runs

variable {state : State} {before tokens : List Token}

theorem mark_later {token : Token}
    (marked : ∃ mark ∈ token :: tokens, mark.kind = .endOfInput)
    (more : token.kind ≠ .endOfInput) : ∃ mark ∈ tokens, mark.kind = .endOfInput := by
  obtain ⟨mark, member, ended⟩ := marked
  rcases List.mem_cons.1 member with rfl | later
  · exact absurd ended more
  · exact ⟨mark, later, ended⟩

theorem Spells.read_ok {formula : Formula} (spelled : Spells state before)
    (marked : ∃ mark ∈ tokens, mark.kind = .endOfInput) (read : state.read tokens = .ok formula) :
    ∃ more mark rest, tokens = more ++ mark :: rest ∧ mark.kind = .endOfInput ∧
      Derives (.comparison formula) (before ++ more) := by
  induction tokens generalizing state before with
  | nil =>
    obtain ⟨mark, member, _⟩ := marked
    cases member
  | cons token tokens ih =>
    rw [State.read] at read
    split at read
    next ended =>
      refine ⟨[], token, tokens, rfl, ended, ?_⟩
      rw [List.append_nil]
      cases spelled with
      | operand | callee | firstArgument => cases read
      | operated brackets pending before tokens last factor outer holds settled derived =>
        cases outer with
        | nothing =>
          cases read
          exact holds.comparison settled derived
        | bracket bracket => cases bracket <;> cases read
    next more =>
      cases stepped : state.step token with
      | error error =>
        rw [stepped] at read
        cases read
      | ok next =>
        rw [stepped] at read
        obtain ⟨further, mark, rest, rfl, ended, derived⟩ :=
          ih (spelled.step stepped) (mark_later marked more) read
        exact ⟨token :: further, mark, rest, rfl, ended, by simpa using derived⟩

/-- Reading fails at the first token that is refused, whatever comes after it. -/
theorem Spells.read_error {error : FormulaError} (spelled : Spells state before)
    (marked : ∃ mark ∈ tokens, mark.kind = .endOfInput)
    (read : state.read tokens = .error error) :
    ∃ more found rest reached, tokens = more ++ found :: rest ∧ Spells reached (before ++ more) ∧
      Refuses reached found error ∧
      ∀ others, state.read (more ++ found :: others) = .error error := by
  induction tokens generalizing state before with
  | nil =>
    obtain ⟨mark, member, _⟩ := marked
    cases member
  | cons token tokens ih =>
    rw [State.read] at read
    split at read
    next ended =>
      refine ⟨[], token, tokens, state, rfl, by simpa using spelled, ?_, fun others => ?_⟩
      · rw [Refuses, if_pos ended]
        exact read
      · rw [List.nil_append, State.read, if_pos ended]
        exact read
    next more =>
      cases stepped : state.step token with
      | error refusal =>
        rw [stepped] at read
        cases read
        refine ⟨[], token, tokens, state, rfl, by simpa using spelled, ?_, fun others => ?_⟩
        · rw [Refuses, if_neg more]
          exact stepped
        · rw [List.nil_append, State.read, if_neg more, stepped]
          rfl
      | ok next =>
        rw [stepped] at read
        obtain ⟨further, found, rest, reached, rfl, led, refuses, always⟩ :=
          ih (spelled.step stepped) (mark_later marked more) read
        refine ⟨token :: further, found, rest, reached, rfl, by simpa using led, refuses,
          fun others => ?_⟩
        rw [List.cons_append, read_step more stepped]
        exact always others

theorem Derives.read {formula : Formula} {mark : Token}
    (derived : Derives (.comparison formula) tokens) (ended : mark.kind = .endOfInput)
    (rest : List Token) : ofTokens (tokens ++ mark :: rest) = .ok formula := by
  obtain ⟨pending, last, whole, reads⟩ := derived.reads []
  refine (reads (mark :: rest)).trans ?_
  rw [State.read, if_pos ended, ← whole]
  rfl

end Runs

end FormulaGrid.Grammar
