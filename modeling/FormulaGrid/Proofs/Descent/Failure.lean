import FormulaGrid.Proofs.Descent.Value

/-! Where the descent fails on tokens that the grammar refuses. What is left to do after the tokens
that lead to a state depends on the open brackets alone, so the descent either meets the refused
token there, or it has failed before with the fault of a tree whose tokens come before that one. -/
namespace FormulaGrid.Evaluation

open FormulaGrid.Failure FormulaGrid.Formula FormulaGrid.Grammar

variable (follow : Allowance → Token → Outcome)

/-- The faults that point at a token. -/
inductive Blames (found : Token) : Fault → Prop
  | unexpected : Blames found (.formula (.unexpected found))
  | expected (kind : TokenKind) : Blames found (.formula (.expected kind found))

/-- Whether a fault is that of a tree. -/
def Arises (fault : Fault) : Prop :=
  ∃ formula : Formula, formula.value (follow none) = .error fault

/-- What is left to do after the next comparison within the innermost bracket, for all but its
result. -/
def conclude : List Bracket → Value × List Token → Except Fault Unit
  | [], read =>
    if (current read.2).kind = .endOfInput then .ok ()
    else .error (.formula (.unexpected (current read.2)))
  | .group _ :: _, read => Bare.expect .rightParen read.2 >>= fun _ => .ok ()
  | .call .. :: _, read => Bare.moreArguments follow none read.2 >>= fun _ => .ok ()

/-- What is left to do where the next comparison within the innermost bracket begins. -/
def resume (brackets : List Bracket) (tokens : List Token) : Except Fault Unit :=
  if awaitsArgument brackets then Bare.argumentList follow none tokens >>= fun _ => .ok ()
  else Bare.comparison follow none tokens >>= conclude follow brackets

section Carrying

variable {α β γ : Type}

/-- With some tokens in front, `outer` fails as `inner` does without them, unless a tree among these
tokens has made it fail before. -/
def Carries (outer : List Token → Except Fault α) (tokens : List Token)
    (inner : List Token → Except Fault β) : Prop :=
  (∃ fault, Arises follow fault ∧ ∀ more, outer (tokens ++ more) = .error fault) ∨
    ∀ more fault, inner more = .error fault → outer (tokens ++ more) = .error fault

/-- A refused token after some others makes `outer` fail, unless it has failed before. In that case
it fails as well where the text ends in place of the refused token. -/
def Stops (outer : List Token → Except Fault α) (tokens : List Token) (found : Token) : Prop :=
  (∃ fault, Blames found fault ∧ ∀ rest, outer (tokens ++ found :: rest) = .error fault) ∨
    ∃ fault, Arises follow fault ∧ (∀ rest, outer (tokens ++ found :: rest) = .error fault) ∧
      ∀ mark : Token, mark.kind = .endOfInput → outer (tokens ++ [mark]) = .error fault

variable {follow} {outer : List Token → Except Fault α} {middle : List Token → Except Fault β}
  {inner : List Token → Except Fault γ} {before tokens : List Token} {found : Token}

theorem Carries.refl : Carries follow outer [] outer :=
  .inr fun _ _ failed => failed

theorem Carries.trans (first : Carries follow outer before middle)
    (second : Carries follow middle tokens inner) :
    Carries follow outer (before ++ tokens) inner := by
  simp only [Carries, List.append_assoc]
  rcases first with ⟨fault, arises, always⟩ | first
  · exact .inl ⟨fault, arises, fun more => always _⟩
  · rcases second with ⟨fault, arises, always⟩ | second
    · exact .inl ⟨fault, arises, fun more => first _ _ (always more)⟩
    · exact .inr fun more fault failed => first _ _ (second more fault failed)

theorem Carries.stops (carries : Carries follow outer before inner)
    (stops : Stops follow inner tokens found) : Stops follow outer (before ++ tokens) found := by
  simp only [Stops, List.append_assoc]
  rcases carries with ⟨fault, arises, always⟩ | carries
  · exact .inr ⟨fault, arises, fun rest => always _, fun mark ended => always _⟩
  · rcases stops with ⟨fault, blames, failed⟩ | ⟨fault, arises, failed, ended⟩
    · exact .inl ⟨fault, blames, fun rest => carries _ _ (failed rest)⟩
    · exact .inr ⟨fault, arises, fun rest => carries _ _ (failed rest),
        fun mark marked => carries _ _ (ended mark marked)⟩

/-- Once a tree has its value, the descent goes on with what follows. -/
theorem carries_of_value (formula : Formula) (next : Value → List Token → Except Fault α)
    (valued : ∀ more, outer (tokens ++ more) =
      formula.value (follow none) >>= fun v => next v more)
    (carries : ∀ v more fault, inner more = .error fault → next v more = .error fault) :
    Carries follow outer tokens inner := by
  cases result : formula.value (follow none) with
  | error fault =>
    refine .inl ⟨fault, ⟨formula, result⟩, fun more => ?_⟩
    rw [valued, result]
    rfl
  | ok v =>
    refine .inr fun more fault failed => ?_
    rw [valued, result]
    exact carries v more fault failed

end Carrying

section Operands

variable {follow} {tokens : List Token}

theorem comparison_error {fault : Fault} (failed : Bare.sum follow none tokens = .error fault) :
    Bare.comparison follow none tokens = .error fault := by
  rw [Bare.comparison_eq, failed]
  rfl

theorem sum_error {fault : Fault} (failed : Bare.product follow none tokens = .error fault) :
    Bare.sum follow none tokens = .error fault := by
  rw [Bare.sum_eq, failed]
  rfl

theorem product_error {fault : Fault} (failed : Bare.factor follow none tokens = .error fault) :
    Bare.product follow none tokens = .error fault := by
  rw [Bare.product_eq, failed]
  rfl

theorem carries_compared {compared : Option Waiting}
    (waits : Waits .sum TokenKind.comparison? compared tokens) :
    Carries follow (Bare.comparison follow none) tokens (Bare.sum follow none) := by
  cases waits with
  | nothing => exact .inr fun more fault failed => comparison_error failed
  | operand left before sign operator signed derived =>
    have unsummed (more : List Token) : (current (sign :: more)).kind.sum? = none :=
      sum_none_of_comparison signed
    refine carries_of_value left
      (fun v more => Bare.sum follow none more >>= fun right =>
        operator.apply sign.position v right.1 >>= fun value => .ok (value, right.2))
      (fun more => ?_) fun v more fault failed => ?_
    · rw [List.append_assoc, List.singleton_append, Bare.comparison_eq,
        evaluates derived (sign :: more) (product_none_of_comparison signed)]
      cases left.value (follow none) with
      | error fault => rfl
      | ok v => simp only [ok_bind, Bare.addends_settled follow none v (unsummed more), signed]
    · rw [failed]
      rfl

theorem carries_summed {summed : Option Waiting}
    (waits : Waits .sum TokenKind.sum? summed tokens) :
    Carries follow (Bare.sum follow none) tokens (Bare.product follow none) := by
  cases waits with
  | nothing => exact .inr fun more fault failed => sum_error failed
  | operand left before sign operator signed derived =>
    refine carries_of_value left
      (fun v more => Bare.addends follow none v (sign :: more))
      (fun more => ?_) fun v more fault failed => ?_
    · rw [List.append_assoc, List.singleton_append]
      exact evaluates derived (sign :: more) (product_none_of_sum signed)
    · simp only [Bare.addends_cons, signed, failed]
      rfl

theorem carries_multiplied {multiplied : Option Waiting}
    (waits : Waits .product TokenKind.product? multiplied tokens) :
    Carries follow (Bare.product follow none) tokens (Bare.factor follow none) := by
  cases waits with
  | nothing => exact .inr fun more fault failed => product_error failed
  | operand left before sign operator signed derived =>
    refine carries_of_value left
      (fun v more => Bare.multipliers follow none v (sign :: more))
      (fun more => ?_) fun v more fault failed => ?_
    · rw [List.append_assoc, List.singleton_append]
      exact evaluates derived (sign :: more)
    · simp only [Bare.multipliers_cons, signed, failed]
      rfl

theorem carries_negated {signs : List Token} (negates : ∀ sign ∈ signs, sign.kind = .not) :
    Carries follow (Bare.factor follow none) signs (Bare.factor follow none) := by
  induction signs with
  | nil => exact .refl
  | cons sign signs ih =>
    have first : Carries follow (Bare.factor follow none) [sign] (Bare.factor follow none) := by
      refine .inr fun more fault failed => ?_
      simp only [List.singleton_append, Bare.factor_cons, negates sign (by simp), spend_none,
        ok_bind, failed]
      rfl
    exact first.trans (ih fun other member => negates other (by simp [member]))

theorem carries_pending {pending : Pending} (holds : Holds pending tokens) :
    Carries follow (Bare.comparison follow none) tokens (Bare.factor follow none) := by
  obtain ⟨compared, summed, multiplied, first, second, third, signs, compares, sums, multiplies,
    negates⟩ := holds
  exact (carries_compared compares).trans ((carries_summed sums).trans
    ((carries_multiplied multiplies).trans (carries_negated negates)))

end Operands

section Brackets

variable {follow} {brackets : List Bracket} {tokens before : List Token}

/-- Whether the next comparison within the innermost bracket begins with these tokens, which do not
close an empty list of arguments. -/
def Resumes (brackets : List Bracket) (tokens : List Token) : Prop :=
  ∃ token rest, tokens = token :: rest ∧
    (awaitsArgument brackets = true → token.kind ≠ .rightParen)

theorem resumes_of_starts (starts : Starts tokens) (more : List Token) :
    Resumes brackets (tokens ++ more) := by
  obtain ⟨token, rest, rfl, begins⟩ := starts
  refine ⟨token, rest ++ more, rfl, fun _ closes => ?_⟩
  rw [closes] at begins
  cases begins

theorem resume_eq (resumes : Resumes brackets tokens) :
    resume follow brackets tokens =
      Bare.comparison follow none tokens >>= conclude follow brackets := by
  obtain ⟨token, rest, rfl, open_list⟩ := resumes
  unfold resume
  split
  next awaits =>
    unfold awaitsArgument at awaits
    split at awaits
    next outside name position others =>
      rw [Bare.argumentList_cons, if_neg (open_list rfl), bind_assoc]
      simp only [bind_assoc, ok_bind]
      rfl
    · cases awaits
  · rfl

theorem resume_error {fault : Fault} (resumes : Resumes brackets tokens)
    (failed : Bare.comparison follow none tokens = .error fault) :
    resume follow brackets tokens = .error fault := by
  rw [resume_eq resumes, failed]
  rfl

theorem evaluateTokens_error {fault : Fault} (failed : resume follow [] tokens = .error fault) :
    evaluateTokens follow none tokens = .error fault := by
  unfold resume at failed
  rw [if_neg (by decide)] at failed
  rw [evaluateTokens_eq]
  rcases bind_eq_error.1 failed with failed | ⟨read, compared, failed⟩
  · rw [failed]
    rfl
  · rw [compared, ok_bind]
    rw [conclude] at failed
    split at failed
    · cases failed
    next more =>
      cases failed
      rw [if_neg more]

theorem carries_resumed {α : Type} {inner : List Token → Except Fault α} (starts : Starts tokens)
    (carries : Carries follow (Bare.comparison follow none) tokens inner) :
    Carries follow (resume follow brackets) tokens inner := by
  rcases carries with ⟨fault, arises, always⟩ | carries
  · exact .inl ⟨fault, arises, fun more => resume_error (resumes_of_starts starts more)
      (always more)⟩
  · exact .inr fun more fault failed => resume_error (resumes_of_starts starts more)
      (carries more fault failed)

theorem carries_argument {outside : Pending} {name : String} {position : Nat}
    {arguments : List Formula} {formula : Formula} {comma : Token} (separates : comma.kind = .comma)
    (derived : Derives (.comparison formula) tokens) :
    Carries follow (resume follow (.call outside name position arguments :: brackets))
      (tokens ++ [comma])
      (resume follow (.call outside name position (formula :: arguments) :: brackets)) := by
  refine carries_of_value formula
    (fun v more => Bare.moreArguments follow none (comma :: more) >>= fun _ => .ok ())
    (fun more => ?_) fun v more fault failed => ?_
  · have listed : Bare.comparison follow none (tokens ++ comma :: more) = _ :=
      evaluates derived (comma :: more) (settled_of_kind separates (by decide) more)
    rw [List.append_assoc, List.singleton_append, resume_eq (resumes_of_starts derived.starts _),
      listed]
    cases formula.value (follow none) <;> rfl
  · unfold resume at failed
    rw [if_neg (by simp [awaitsArgument])] at failed
    rw [Bare.moreArguments_cons, if_pos separates]
    rcases bind_eq_error.1 failed with failed | ⟨read, compared, failed⟩
    · rw [failed]
      rfl
    · rw [conclude, discard_eq_error] at failed
      simp only [compared, ok_bind, failed, error_bind]

theorem carries_arguments {outside : Pending} {name : String} {position : Nat}
    {arguments : List Formula} (precedes : Precedes arguments tokens) :
    Carries follow (resume follow (.call outside name position [] :: brackets)) tokens
      (resume follow (.call outside name position arguments :: brackets)) := by
  induction precedes with
  | nothing => exact .refl
  | argument formula others before tokens comma separates earlier derived ih =>
    exact ih.trans (carries_argument separates derived)

theorem carries_bracket {bracket : Bracket} (surrounds : Surrounds bracket tokens) :
    Carries follow (resume follow brackets) tokens (resume follow (bracket :: brackets)) := by
  cases surrounds with
  | group outside before opening holds opens =>
    have starts : Starts [opening] := ⟨opening, [], rfl, by rw [opens]; rfl⟩
    have opened : Carries follow (Bare.factor follow none) [opening]
        (resume follow (.group outside :: brackets)) := by
      refine .inr fun more fault failed => ?_
      unfold resume at failed
      rw [if_neg (by simp [awaitsArgument])] at failed
      simp only [List.singleton_append, Bare.factor_cons, opens, spend_none, ok_bind]
      rcases bind_eq_error.1 failed with failed | ⟨read, compared, failed⟩
      · rw [failed]
        rfl
      · rw [conclude, discard_eq_error] at failed
        simp only [compared, ok_bind, failed, error_bind]
    exact carries_resumed (holds.starts_append starts) ((carries_pending holds).trans opened)
  | call outside before name opening arguments others holds function opens earlier =>
    have starts : Starts (name :: opening :: others) := ⟨name, _, rfl, by rw [function]; rfl⟩
    have opened : Carries follow (Bare.factor follow none) [name, opening]
        (resume follow (.call outside name.lexeme name.position [] :: brackets)) := by
      refine .inr fun more fault failed => ?_
      unfold resume at failed
      rw [if_pos (by rfl), discard_eq_error] at failed
      simp only [List.cons_append, List.nil_append, Bare.factor_cons, function, Bare.expect_cons,
        opens, if_true, ok_bind, spend_none, failed, error_bind]
    exact carries_resumed (holds.starts_append starts)
      ((carries_pending holds).trans (opened.trans (carries_arguments earlier)))

theorem carries_brackets (opens : Opens brackets before) :
    Carries follow (evaluateTokens follow none) before (resume follow brackets) := by
  induction opens with
  | nothing => exact .inr fun more fault failed => evaluateTokens_error failed
  | bracket bracket brackets before tokens outer inner ih => exact ih.trans (carries_bracket inner)

end Brackets

section Refusal

variable {follow} {brackets : List Bracket} {tokens : List Token} {found : Token}

theorem refuses_operand {state : State} {error : FormulaError}
    (refused : state.readOperand found = .error error) : beginsPhrase found.kind = false := by
  cases kind : found.kind with
  | number | cellReference | function | not | leftParen =>
    rw [State.readOperand, kind] at refused
    cases refused
  | _ => rfl

theorem refuses_firstArgument {pending : Pending} {error : FormulaError}
    (awaits : awaitsArgument brackets)
    (refused : Refuses ⟨brackets, pending, .firstArgument⟩ found error) :
    beginsPhrase found.kind = false ∧ found.kind ≠ .rightParen := by
  unfold Refuses at refused
  split at refused
  next ended => simp [ended, beginsPhrase]
  next =>
    simp only [State.step] at refused
    split at refused
    · cases refused
    next filled =>
      refine ⟨refuses_operand refused, fun closing => ?_⟩
      unfold awaitsArgument at awaits
      split at awaits
      · exact filled _ _ _ _ _ closing rfl
      · cases awaits

theorem stops_factor (stuck : beginsPhrase found.kind = false) :
    Stops follow (Bare.factor follow none) [] found := by
  refine .inl ⟨_, .unexpected, fun rest => ?_⟩
  rw [List.nil_append, Bare.factor_cons]
  cases kind : found.kind <;> first | rfl | (rw [kind] at stuck; cases stuck)

theorem stops_callee {name : Token} (function : name.kind = .function)
    (stuck : found.kind ≠ .leftParen) : Stops follow (Bare.factor follow none) [name] found := by
  refine .inl ⟨_, .expected .leftParen, fun rest => ?_⟩
  simp only [List.singleton_append, Bare.factor_cons, function, Bare.expect_cons, if_neg stuck,
    error_bind]

theorem resumes_of_open (starts : tokens ≠ [] → Starts tokens) {next : Token}
    (open_list : tokens = [] → awaitsArgument brackets = true → next.kind ≠ .rightParen)
    (rest : List Token) : Resumes brackets (tokens ++ next :: rest) := by
  by_cases empty : tokens = []
  · exact ⟨next, rest, by rw [empty]; rfl, open_list empty⟩
  · exact resumes_of_starts (starts empty) _

theorem stops_resumed (starts : tokens ≠ [] → Starts tokens)
    (open_list : tokens = [] → awaitsArgument brackets = true → found.kind ≠ .rightParen)
    (stops : Stops follow (Bare.comparison follow none) tokens found) :
    Stops follow (resume follow brackets) tokens found := by
  have goes_on (rest : List Token) := resumes_of_open starts open_list rest
  rcases stops with ⟨fault, blames, failed⟩ | ⟨fault, arises, failed, ended⟩
  · exact .inl ⟨fault, blames, fun rest => resume_error (goes_on rest) (failed rest)⟩
  · refine .inr ⟨fault, arises, fun rest => resume_error (goes_on rest) (failed rest),
      fun mark marked => resume_error ?_ (ended mark marked)⟩
    exact resumes_of_open starts (by simp [marked]) []

theorem comparison_settled {pending : Pending} {last : Formula} {factor : List Token}
    (holds : Holds pending tokens) (settled : pending.negations = [])
    (derived : Derives (.factor last) factor) (noProduct : found.kind.product? = none)
    (noSum : found.kind.sum? = none)
    (noComparison : found.kind.comparison? = none ∨ pending.compared.isSome) (rest : List Token) :
    Bare.comparison follow none (tokens ++ factor ++ found :: rest) =
      (pending.comparison last).value (follow none) >>= fun v => .ok (v, found :: rest) := by
  rcases noComparison with noComparison | compared
  · exact evaluates (holds.comparison settled derived) (found :: rest)
      ⟨noProduct, noSum, noComparison⟩
  · obtain ⟨compared, summed, multiplied, first, second, third, signs, compares, sums, multiplies,
      negates⟩ := holds
    obtain rfl : signs = [] := by simpa using settled
    cases compares with
    | nothing => cases compared
    | operand left before sign operator signed before_derived =>
      have right := sums.sum (multiplies.product derived)
      have compared : Bare.comparison follow none
          (before ++ sign :: (second ++ (third ++ factor) ++ found :: rest)) = _ :=
        comparison_compare signed (evaluates before_derived) (evaluates right) noProduct noSum
      simpa [Pending.comparison, Pending.sum, Pending.product, Pending.join] using compared

variable (follow) in
theorem conclude_error (ends : brackets = [] → found.kind ≠ .endOfInput)
    (closes : found.kind = .rightParen → brackets = [])
    (separates : found.kind = .comma → ∀ outside name position arguments others,
      brackets ≠ .call outside name position arguments :: others) :
    ∃ fault, Blames found fault ∧ ∀ v rest,
      conclude follow brackets (v, found :: rest) = .error fault := by
  cases brackets with
  | nil => exact ⟨_, .unexpected, fun v rest => if_neg (ends rfl)⟩
  | cons bracket others =>
    have stays_open : found.kind ≠ .rightParen := fun closing => by cases closes closing
    cases bracket with
    | group outside =>
      refine ⟨_, .expected .rightParen, fun v rest => ?_⟩
      rw [conclude, Bare.expect_cons, if_neg stays_open]
      rfl
    | call outside name position arguments =>
      have last : found.kind ≠ .comma := fun comma => separates comma _ _ _ _ _ rfl
      refine ⟨_, .expected .rightParen, fun v rest => ?_⟩
      rw [conclude, Bare.moreArguments_cons, if_neg last, if_neg stays_open]
      rfl

variable (follow) in
theorem refuses_operated {pending : Pending} {last : Formula} {error : FormulaError}
    (refused : Refuses ⟨brackets, pending, .operated last⟩ found error) :
    found.kind.product? = none ∧ found.kind.sum? = none ∧
      (found.kind.comparison? = none ∨ pending.compared.isSome) ∧
      ∃ fault, Blames found fault ∧ ∀ v rest,
        conclude follow brackets (v, found :: rest) = .error fault := by
  unfold Refuses at refused
  split at refused
  next ended =>
    refine ⟨by rw [ended]; rfl, by rw [ended]; rfl, .inl (by rw [ended]; rfl),
      conclude_error follow ?_ (by simp [ended]) (by simp [ended])⟩
    rintro rfl
    cases refused
  next more =>
    simp only [State.step, State.readOperator] at refused
    split at refused
    · cases refused
    · cases refused
    next operator signed _ _ =>
      refine ⟨product_none_of_comparison signed, sum_none_of_comparison signed, .inr ?_,
        conclude_error follow (fun _ => more) ?_ ?_⟩
      · split at refused
        next compared => exact compared
        next => cases refused
      · intro closing
        rw [closing] at signed
        cases signed
      · intro comma
        rw [comma] at signed
        cases signed
    next noProduct noSum noComparison =>
      refine ⟨Option.eq_none_iff_forall_ne_some.2 noProduct,
        Option.eq_none_iff_forall_ne_some.2 noSum,
        .inl (Option.eq_none_iff_forall_ne_some.2 noComparison),
        conclude_error follow (fun _ => more) ?_ ?_⟩
      · intro closing
        simp only [closing, State.closeBracket] at refused
        split at refused
        · rfl
        · cases refused
        · cases refused
      · rintro comma outside name position arguments others rfl
        simp only [comma, State.nextArgument] at refused
        cases refused

theorem stops_operated {pending : Pending} {last : Formula} {factor : List Token}
    {error : FormulaError} (holds : Holds pending tokens) (settled : pending.negations = [])
    (derived : Derives (.factor last) factor)
    (refused : Refuses ⟨brackets, pending, .operated last⟩ found error) :
    Stops follow (resume follow brackets) (tokens ++ factor) found := by
  obtain ⟨noProduct, noSum, noComparison, fault, blames, barred⟩ :=
    refuses_operated follow refused
  have whole := holds.comparison settled derived
  -- The comparison is whole, so its value comes first and what its bracket expects comes after.
  have resumed (rest : List Token) : resume follow brackets (tokens ++ factor ++ found :: rest) =
      (pending.comparison last).value (follow none) >>= fun v =>
        conclude follow brackets (v, found :: rest) := by
    rw [resume_eq (resumes_of_starts whole.starts _),
      comparison_settled holds settled derived noProduct noSum noComparison]
    cases (pending.comparison last).value (follow none) <;> rfl
  cases result : (pending.comparison last).value (follow none) with
  | ok v =>
    refine .inl ⟨fault, blames, fun rest => ?_⟩
    rw [resumed, result]
    exact barred v rest
  | error reason =>
    refine .inr ⟨reason, ⟨_, result⟩, fun rest => ?_, fun mark ended => ?_⟩
    · rw [resumed, result]
      rfl
    · apply resume_error (resumes_of_starts whole.starts _)
      have read : Bare.comparison follow none (tokens ++ factor ++ [mark]) = _ :=
        evaluates whole [mark] (settled_of_kind ended (by decide) [])
      rw [read, result]
      rfl

/-- Where reading a formula stops, evaluating it stops as well, or has stopped before. -/
theorem stops_of_refuses {state : State} {before : List Token} {error : FormulaError}
    (spelled : Spells state before) (refused : Refuses state found error) :
    Stops follow (evaluateTokens follow none) before found := by
  cases spelled with
  | operand brackets pending before tokens outer holds begun =>
    have stuck : beginsPhrase found.kind = false := by
      unfold Refuses at refused
      split at refused
      next ended => rw [ended]; rfl
      next => exact refuses_operand refused
    have inside : Stops follow (Bare.comparison follow none) (tokens ++ []) found :=
      (carries_pending holds).stops (stops_factor stuck)
    rw [List.append_nil] at inside
    have open_list (empty : tokens = []) (awaits : awaitsArgument brackets = true) :
        found.kind ≠ .rightParen := by
      rw [begun empty] at awaits
      cases awaits
    exact (carries_brackets outer).stops (stops_resumed holds.starts open_list inside)
  | callee brackets pending before tokens name outer holds function =>
    have stuck : found.kind ≠ .leftParen := by
      intro opens
      simp only [Refuses, opens, reduceCtorEq, if_false, State.step, State.readCallee] at refused
      cases refused
    have starts : Starts [name] := ⟨name, [], rfl, by rw [function]; rfl⟩
    exact (carries_brackets outer).stops (stops_resumed (fun _ => holds.starts_append starts)
      (by simp) ((carries_pending holds).stops (stops_callee function stuck)))
  | firstArgument brackets before awaits outer =>
    obtain ⟨stuck, open_list⟩ := refuses_firstArgument awaits refused
    have inside : Stops follow (Bare.comparison follow none) [] found :=
      (carries_pending holds_none).stops (stops_factor stuck)
    have stops :=
      (carries_brackets outer).stops (stops_resumed (by simp) (fun _ _ => open_list) inside)
    rwa [List.append_nil] at stops
  | operated brackets pending before tokens last factor outer holds settled derived =>
    exact (carries_brackets outer).stops (stops_operated holds settled derived refused)

end Refusal

end FormulaGrid.Evaluation
