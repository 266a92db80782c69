import FormulaGrid.Proofs.Dependency
import FormulaGrid.Proofs.Splice

/-! A reference means the formula of its cell in brackets. The text with the reference and the text
with the brackets are evaluated side by side. Where one follows the reference the other one reads
the brackets, and there the tokens of the cell's formula are evaluated side by side with the same
tokens in brackets. -/
namespace FormulaGrid.Evaluation

open FormulaGrid.Failure FormulaGrid.Formula FormulaGrid.Grammar FormulaGrid.Token

/-- The faults that a reference may lead to where its cell's formula in brackets does not. -/
def Unshared (fault : Fault) : Prop :=
  Confined fault ∨ fault.code = "parse_error"

/-- A descent that may follow references for which another one reads brackets. -/
def inlining (plain : Token → Prop) (parts : List Token → List Token → Prop)
    (parting : ∀ {tokens others}, parts tokens others →
      Parting Unshared (fun _ _ => True) tokens others) : Likeness where
  lost := Unshared
  faults _ _ := True
  allowances := Allowance.AtMost
  tokens t u := Token.Similar t u ∧ plain t
  parts := parts
  kind same := same.1.1
  lexeme same := same.1.2
  unexpected _ := trivial
  expected _ _ := trivial
  placed _ _ _ := trivial
  numeric _ := trivial
  spend allowed share :=
    (atMost_spend_alike (.inl (.inr (.inr rfl))) allowed (Nat.le_refl share)).imp
      fun _ _ within => within.2
  parting := parting

theorem inlining_lists {plain : Token → Prop} {parts : List Token → List Token → Prop}
    {parting : ∀ {tokens others}, parts tokens others →
      Parting Unshared (fun _ _ => True) tokens others}
    {front place replaced others : List Token} (inside : ∀ token ∈ front, plain token)
    (similar : List.Forall₂ Token.Similar (front ++ replaced) others)
    (parted : ∀ others, List.Forall₂ Token.Similar replaced others → parts place others) :
    (inlining plain parts parting).Lists (front ++ place) others := by
  induction front generalizing others with
  | nil => exact .apart (parted others similar)
  | cons token front ih =>
    obtain ⟨first, rest⟩ := List.forall_mem_cons.1 inside
    cases similar with
    | cons same more => exact .cons ⟨same, first⟩ (ih rest more)

section Descents

variable {accessor : Option Accessor} {chain other inner : Chain} {a b : Allowance}
  {body after others : List Token} {mark : Token}

theorem referenceValue_placed {t u : Token} {v : Value} (same : t.lexeme = u.lexeme) :
    referenceValue accessor chain a t = .ok v ↔ referenceValue accessor chain a u = .ok v := by
  rw [referenceValue_ok_iff, referenceValue_ok_iff, same]

theorem referenceValue_similar (looser : Looser chain other) (allowed : Allowance.AtMost a b)
    {t u : Token} (same : t.lexeme = u.lexeme) :
    Alike Unshared (fun _ _ => True) Eq (referenceValue accessor chain a t)
      (referenceValue accessor other b u) := by
  have alike : Alike Confined Eq Eq (referenceValue accessor chain a t)
      (referenceValue accessor other b t) := referenceValue_looser looser allowed t
  refine alike_of_results (fun _ _ => trivial)
    (fun v done => (referenceValue_placed same).1 (alike.result done)) fun v done => ?_
  rcases alike.result_or_lost ((referenceValue_placed same).2 done) with
    same | ⟨fault, failed, confined⟩
  · exact .inl same
  · exact .inr ⟨fault, failed, .inl confined⟩

theorem evaluateTokens_bracketed (looser : Looser inner chain) (allowed : Allowance.AtMost a b)
    (ended : mark.kind = .endOfInput) (inside : ∀ token ∈ body, token.kind ≠ .endOfInput)
    (similar : List.Forall₂ Token.Similar (body ++ closing :: after) others) :
    Alike Unshared (fun _ _ => True)
      (fun v read => v = read.1 ∧ List.Forall₂ Token.Similar after read.2)
      (evaluateTokens (referenceValue accessor inner) a (body ++ [mark]))
      (Bare.comparison (referenceValue accessor chain) b others >>= fun read =>
        Bare.expect .rightParen read.2 >>= fun closed => .ok (read.1, closed.2)) := by
  let likeness := inlining (fun token => token.kind ≠ .endOfInput)
    (fun tokens others => tokens = [mark] ∧ List.Forall₂ Token.Similar (closing :: after) others)
    (by
      rintro tokens others ⟨rfl, similar⟩
      cases similar with
      | cons same more =>
        exact .ends mark _ [] _ ended same.1.symm (.inr rfl) fun kind => .inr rfl)
  have lists : likeness.Lists (body ++ [mark]) others :=
    inlining_lists inside similar fun others similar => ⟨rfl, similar⟩
  have follows :
      likeness.Follows (referenceValue accessor inner) (referenceValue accessor chain) := by
    constructor
    · intro a b t u refers allowed same
      exact referenceValue_similar looser allowed same.1.2
    · rintro a b reference rest others refers allowed ⟨same, _⟩
      cases same
      rw [ended] at refers
      cases refers
  rw [evaluateTokens_eq]
  refine (comparison_alike likeness lists allowed follows).bind fun read read' _ readings => ?_
  obtain ⟨value, rest⟩ := read
  obtain ⟨value', rest'⟩ := read'
  obtain ⟨rfl, further⟩ := readings
  cases further with
  | cons same more =>
    rw [current, if_neg same.2]
    exact .lost _ (.inr rfl) _
  | apart parted =>
    obtain ⟨rfl, similar⟩ := parted
    cases similar with
    | @cons _ u _ rest same more =>
      have closes : u.kind = .rightParen := same.1.symm
      rw [current, if_pos ended, Bare.expect_cons, if_pos closes]
      exact .done _ _ ⟨rfl, more⟩

theorem elsewhere_alike {α β : Type} {results : Value → α → Prop} {weaker : β → α → Prop}
    {first : Outcome} {second : Except Fault α} {f : Value → β}
    (alike : Alike Unshared (fun _ _ => True) results first second)
    (next : ∀ v x, results v x → weaker (f v) x) :
    Alike Unshared (fun _ _ => True) weaker
      (first.mapError Fault.elsewhere >>= fun v => .ok (f v)) second := by
  cases alike with
  | lost fault gone second =>
    refine .lost _ ?_ second
    rcases gone with confined | code
    · exact .inl (confined_elsewhere confined)
    · exact .inr ((elsewhere_code fault).trans code)
  | failed fault other same => exact .failed _ _ trivial
  | done v x same => exact .done _ _ (next v x same)

theorem factor_bracketed {cell : Snapshot} {reference : Token}
    (refers : reference.kind = .cellReference)
    (found : accessor.bind (· reference.lexeme) = some cell) (formula : cell.isFormula)
    (visible : bodyStart cell.rawExpression < cell.rawExpression.length)
    (lexed : tokenize cell.rawExpression (bodyStart cell.rawExpression) = .ok (body ++ [mark]))
    (ended : mark.kind = .endOfInput) (inside : ∀ token ∈ body, token.kind ≠ .endOfInput)
    (allowed : Allowance.AtMost a b)
    (similar : List.Forall₂ Token.Similar (opening :: (body ++ closing :: after)) others) :
    Alike Unshared (fun _ _ => True)
      (fun read read' =>
        read.1 = read'.1 ∧ read.2 = after ∧ List.Forall₂ Token.Similar after read'.2)
      (Bare.factor (referenceValue accessor chain) a (reference :: after))
      (Bare.factor (referenceValue accessor chain) b others) := by
  cases similar with
  | @cons _ open_token _ rest same more =>
    have opens : open_token.kind = .leftParen := same.1.symm
    simp only [Bare.factor_cons, refers, opens]
    rcases referenceValue_formula found formula with
      ⟨fault, confined, failed⟩ | ⟨inner, entered, led⟩
    · rw [failed]
      exact .lost fault (.inl confined) _
    · rw [led, bind_assoc]
      have cheaper : Allowance.bracket ≤ Allowance.reference := by decide
      refine (atMost_spend_alike (.inl (.inr (.inr rfl))) allowed cheaper).bind
        fun left rest _ within => ?_
      rw [evaluateWithin_lexed accessor inner left visible lexed]
      refine elsewhere_alike (evaluateTokens_bracketed (Looser.of_enter entered) within.2 ended
        inside more) fun v read readings => ⟨readings.1, rfl, readings.2⟩

end Descents

section Texts

variable {accessor : Option Accessor} {chain : Chain} {allowance : Allowance} {text : String}
  {before after tokens : List Token} {token : Token} {cell : Snapshot}

theorem visible_of_reference
    (lexed : tokenize text (bodyStart text) = .ok (before ++ token :: after))
    (refers : token.kind = .cellReference) :
    token.lexeme ∈ mentions text ∧ bodyStart text < text.length := by
  have mentioned : token.lexeme ∈ mentions text :=
    lexeme_mem_mentions lexed (List.mem_append_right _ List.mem_cons_self) refers
  refine ⟨mentioned, Nat.lt_of_not_le fun blank => ?_⟩
  rw [mentions_blank blank] at mentioned
  cases mentioned

/-- A text with a reference, and the text with the formula of its cell in brackets instead. -/
theorem evaluateWithin_alike_inlined
    (lexed : tokenize text (bodyStart text) = .ok (before ++ token :: after))
    (refers : token.kind = .cellReference)
    (found : accessor.bind (· token.lexeme) = some cell) (formula : cell.isFormula)
    (visible : bodyStart cell.rawExpression < cell.rawExpression.length)
    (also : tokenize cell.rawExpression (bodyStart cell.rawExpression) = .ok tokens) :
    Alike Unshared (fun _ _ => True) Eq (evaluateWithin accessor chain allowance text)
      (evaluateWithin accessor chain allowance (inlined text token cell.rawExpression)) := by
  obtain ⟨body, mark, rfl, ended, inside⟩ := tokenize_marked also
  obtain ⟨others, inlined_lexed, similar⟩ := tokenize_inlined lexed (by simp [refers]) also
  rw [evaluateWithin_lexed accessor chain allowance (visible_of_reference lexed refers).2 lexed,
    evaluateWithin_lexed accessor chain allowance (bodyStart_inlined _ lexed) inlined_lexed]
  let likeness := inlining (fun _ => True)
    (fun tokens others => tokens = [] ∧ others = [] ∨
      tokens = token :: after ∧
        List.Forall₂ Token.Similar (opening :: (body ++ closing :: after)) others)
    (by
      rintro tokens others (⟨rfl, rfl⟩ | ⟨rfl, similar⟩)
      · exact .nothing trivial fun _ => trivial
      · cases similar with
        | cons same more =>
          exact .brackets token _ after _ refers same.1.symm (.inr rfl) fun kind => .inr rfl)
  have lists : likeness.Lists (before ++ token :: after) others :=
    inlining_lists (fun _ _ => trivial) similar fun others similar => .inr ⟨rfl, similar⟩
  refine evaluateTokens_alike likeness lists (atMost_refl allowance) ⟨?_, ?_⟩ ?_
  · intro a b t u _ allowed same
    exact referenceValue_similar (Looser.refl chain) allowed same.1.2
  · rintro a b reference rest others refers allowed (⟨same, _⟩ | ⟨same, similar⟩)
    · cases same
    · cases same
      refine Alike.imp (factor_bracketed refers found formula visible also ended inside allowed
        similar) ?_
      rintro read read' ⟨value, rfl, more⟩
      refine ⟨value, Likeness.lists_of_forall₂ ?_ (.inl ⟨rfl, rfl⟩)⟩
      exact more.imp fun _ _ same => ⟨same, trivial⟩
  · rintro mark rest others (⟨same, _⟩ | ⟨same, _⟩)
    · cases same
    · cases same
      simp [refers]

theorem mentioned_similar {others : List Token}
    (similar : List.Forall₂ Token.Similar tokens others) :
    mentioned others = mentioned tokens := by
  induction similar with
  | nil => rfl
  | @cons t u tokens others same more ih =>
    by_cases refers : t.kind = .cellReference
    · have also : u.kind = .cellReference := same.1.symm.trans refers
      simpa [mentioned, refers, also, same.2] using ih
    · have other : u.kind ≠ .cellReference := fun also => refers (same.1.trans also)
      rw [mentioned_cons refers, mentioned_cons other, ih]

theorem mentions_inlined
    (lexed : tokenize text (bodyStart text) = .ok (before ++ token :: after))
    (refers : token.kind = .cellReference)
    (also : tokenize cell.rawExpression (bodyStart cell.rawExpression) = .ok tokens) :
    mentions (inlined text token cell.rawExpression) =
      mentioned before ++ (mentions cell.rawExpression ++ mentioned after) := by
  obtain ⟨body, mark, rfl, ended, _⟩ := tokenize_marked also
  obtain ⟨others, inlined_lexed, similar⟩ := tokenize_inlined lexed (by simp [refers]) also
  have opens : opening.kind ≠ .cellReference := by decide
  have closes : closing.kind ≠ .cellReference := by decide
  have ends : mark.kind ≠ .cellReference := by simp [ended]
  rw [mentions, inlined_lexed, mentions, also]
  dsimp only
  rw [mentioned_similar similar, mentioned_append, mentioned_cons opens, mentioned_append,
    mentioned_cons closes, mentioned_append body, mentioned_cons ends]
  simp [mentioned]

theorem not_parse_error {fault : Fault} (valid : ∃ w, validate text = .ok w)
    (failed : evaluateWithin accessor chain none text = .error fault)
    (followed : ∀ name ∈ mentions text, ∀ position fault,
      referenceValue accessor chain none ⟨.cellReference, name, position⟩ = .error fault →
        fault.code ≠ "parse_error") : fault.code ≠ "parse_error" := by
  obtain ⟨w, valid⟩ := valid
  rcases validate_ok_cases valid with blank | ⟨formula, parses, fits⟩
  · rw [evaluateWithin_blank accessor chain none blank] at failed
    cases failed
  · rw [evaluateWithin_parsed accessor chain parses] at failed
    rcases value_error failed with ⟨name, mentioned, position, met⟩ | ⟨code, _⟩ | code | code
    · rw [← mentions_parsed parses] at mentioned
      exact followed name mentioned position fault met
    all_goals
      rw [code]
      decide

theorem not_parse_error_within {inner : Chain} {fault : Fault} (looser : Looser inner chain)
    (valid : ∃ w, validate text = .ok w)
    (failed : evaluateWithin accessor inner none text = .error fault)
    (known : ∀ name ∈ mentions text, ∀ position,
      ∃ w, referenceValue accessor chain none ⟨.cellReference, name, position⟩ = .ok w) :
    fault.code ≠ "parse_error" := by
  refine not_parse_error valid failed fun name mentioned position reason followed => ?_
  obtain ⟨w, result⟩ := known name mentioned position
  have alike : Alike Confined Eq Eq
      (referenceValue accessor inner none ⟨.cellReference, name, position⟩)
      (referenceValue accessor chain none ⟨.cellReference, name, position⟩) :=
    referenceValue_looser looser (atMost_refl none) _
  rcases alike.result_or_lost result with same | ⟨other, same, confined⟩
  · rw [followed] at same
    cases same
  · rw [followed] at same
    cases same
    exact confined.code_ne

/-- If the text and the formula of the cell are both valid, then no syntax keeps the text from the
value that it has with the formula in brackets. -/
theorem not_parse_error_of_inlined {v : Value} {fault : Fault}
    (lexed : tokenize text (bodyStart text) = .ok (before ++ token :: after))
    (refers : token.kind = .cellReference)
    (found : accessor.bind (· token.lexeme) = some cell) (formula : cell.isFormula)
    (also : tokenize cell.rawExpression (bodyStart cell.rawExpression) = .ok tokens)
    (valued : evaluateWithin accessor chain none (inlined text token cell.rawExpression) = .ok v)
    (failed : evaluateWithin accessor chain none text = .error fault)
    (valid : ∃ w, validate text = .ok w) (cell_valid : ∃ w, validate cell.rawExpression = .ok w) :
    fault.code ≠ "parse_error" := by
  have known (name : String) (mentioned : name ∈ mentions (inlined text token cell.rawExpression))
      (position : Nat) : ∃ w, referenceValue accessor chain none ⟨.cellReference, name, position⟩ =
        .ok w := by
    obtain ⟨place, w, result⟩ := value_of_mentioned valued mentioned
    have same : (⟨.cellReference, name, place⟩ : Token).lexeme =
      (⟨.cellReference, name, position⟩ : Token).lexeme := rfl
    exact ⟨w, (referenceValue_placed same).1 result⟩
  have spelled := mentions_inlined lexed refers also
  refine not_parse_error valid failed fun name mentioned position reason followed => ?_
  by_cases own : name = token.lexeme
  · subst own
    have resolved : accessor.bind (· (⟨.cellReference, token.lexeme, position⟩ : Token).lexeme) =
      some cell := found
    rcases referenceValue_formula resolved formula with
      ⟨other, confined, led⟩ | ⟨inner, entered, led⟩
    · rw [led] at followed
      cases followed
      exact confined.code_ne
    · rw [led, spend_none, ok_bind] at followed
      obtain ⟨nested, evaluated, rfl⟩ := mapError_eq_error.1 followed
      rw [elsewhere_code]
      refine not_parse_error_within (Looser.of_enter entered) cell_valid evaluated
        fun name mentioned position => known name ?_ position
      simp [spelled, mentioned]
  · have elsewhere : name ∈ mentions (inlined text token cell.rawExpression) := by
      rw [mentions, lexed] at mentioned
      dsimp only at mentioned
      rw [mentioned_append, mentioned_reference refers] at mentioned
      rw [spelled]
      rcases List.mem_append.1 mentioned with front | back
      · exact List.mem_append_left _ front
      · have later := (List.mem_cons.1 back).resolve_left own
        exact List.mem_append_right _ (List.mem_append_right _ later)
    obtain ⟨w, result⟩ := known name elsewhere position
    rw [followed] at result
    cases result

theorem lexed_of_value {v : Value} (visible : bodyStart text < text.length)
    (valued : evaluateWithin accessor chain allowance text = .ok v) :
    ∃ tokens, tokenize text (bodyStart text) = .ok tokens := by
  cases lexed : tokenize text (bodyStart text) with
  | ok tokens => exact ⟨tokens, rfl⟩
  | error error =>
    rw [evaluateWithin_unlexed accessor chain allowance visible lexed] at valued
    cases valued

theorem lexed_of_mentioned {v : Value} (mentioned : token.lexeme ∈ mentions text)
    (found : accessor.bind (· token.lexeme) = some cell) (formula : cell.isFormula)
    (visible : bodyStart cell.rawExpression < cell.rawExpression.length)
    (valued : evaluateWithin accessor chain none text = .ok v) :
    ∃ tokens, tokenize cell.rawExpression (bodyStart cell.rawExpression) = .ok tokens := by
  obtain ⟨_, other, resolved, opens⟩ := (sound_of_value valued).followed mentioned
  obtain rfl := Option.some.inj (found.symm.trans resolved)
  obtain ⟨_, _, sound⟩ := opens formula
  obtain ⟨w, valid⟩ := sound.valid
  rcases validate_ok_cases valid with blank | ⟨tree, ⟨_, tokens, lexed, _⟩, _⟩
  · exact absurd blank (Nat.not_le.2 visible)
  · exact ⟨tokens, lexed⟩

end Texts

/-- A reference means the formula of its cell in brackets. The text has no value that it does not
have with the brackets, and with the reference it lacks a value only for a cycle or too long a
chain, or for the syntax of the text or of the cell's formula by itself. -/
theorem evaluateWithin_inlined (accessor : Option Accessor) (chain : Chain) (allowance : Allowance)
    (text : String) (before after : List Token) (token : Token) (cell : Snapshot)
    (lexed : tokenize text (bodyStart text) = .ok (before ++ token :: after))
    (refers : token.kind = .cellReference)
    (found : accessor.bind (· token.lexeme) = some cell) (formula : cell.isFormula)
    (visible : bodyStart cell.rawExpression < cell.rawExpression.length) :
    (∀ v, evaluateWithin accessor chain allowance text = .ok v →
      evaluateWithin accessor chain allowance (inlined text token cell.rawExpression) = .ok v) ∧
    ∀ v, evaluateWithin accessor chain allowance (inlined text token cell.rawExpression) = .ok v →
      evaluateWithin accessor chain allowance text ≠ .error .nestedTooDeeply →
      evaluateWithin accessor chain allowance text = .ok v ∨
        ∃ fault, evaluateWithin accessor chain allowance text = .error fault ∧
          (fault.code = "cyclic_reference" ∨ fault.code = "depth_exceeded" ∨
            fault.code = "parse_error" ∧
              ¬ ((∃ w, validate text = .ok w) ∧ ∃ w, validate cell.rawExpression = .ok w)) := by
  constructor
  · intro v valued
    have free : evaluateWithin accessor chain none text = .ok v :=
      value_of_looser (Looser.refl chain) trivial valued
    obtain ⟨tokens, also⟩ :=
      lexed_of_mentioned (visible_of_reference lexed refers).1 found formula visible free
    exact (evaluateWithin_alike_inlined lexed refers found formula visible also).result valued
  · intro v valued shallow
    obtain ⟨others, spliced⟩ := lexed_of_value (bodyStart_inlined _ lexed) valued
    obtain ⟨tokens, also⟩ := tokenize_of_inlined lexed spliced
    rcases (evaluateWithin_alike_inlined lexed refers found formula visible also).result_or_lost
      valued with same | ⟨fault, failed, unshared⟩
    · exact .inl same
    · refine .inr ⟨fault, failed, ?_⟩
      rcases unshared with (cyclic | deep | rfl) | syntactic
      · exact .inl cyclic
      · exact .inr (.inl deep)
      · exact absurd failed shallow
      · refine .inr (.inr ⟨syntactic, fun valid => ?_⟩)
        have free : evaluateWithin accessor chain none (inlined text token cell.rawExpression) =
            .ok v := value_of_looser (Looser.refl chain) trivial valued
        rw [evaluateWithin_unlimited shallow] at failed
        exact not_parse_error_of_inlined lexed refers found formula also free failed valid.1 valid.2
          syntactic

theorem evaluateWithin_inlined_chained :
    let cells : Accessor := fun name =>
      if name = "A1" then some ⟨"A1", "=B1", .empty⟩
      else if name = "B1" then some ⟨"B1", "", .text "x"⟩
      else none
    let free := Chain.start none 1 Nat.one_pos
    let full := Chain.start (some "C1") 1 Nat.one_pos
    evaluateWithin (some cells) free Allowance.standard "(B1)" = .ok (.text "x") ∧
      ∃ fault, evaluateWithin (some cells) full Allowance.standard "A1" = .error fault ∧
        (fault.code = "cyclic_reference" ∨ fault.code = "depth_exceeded" ∨
          fault.code = "parse_error" ∧
            ¬ ((∃ w, validate "A1" = .ok w) ∧ ∃ w, validate "=B1" = .ok w)) := by
  intro cells free full
  let token : Token := ⟨.cellReference, "A1", 0⟩
  have lexed : tokenize "A1" (bodyStart "A1") = .ok ([] ++ token :: [Token.finish 2]) := by cbv
  have spliced : inlined "A1" token "=B1" = "(B1)" := by cbv
  have means (chain : Chain) := evaluateWithin_inlined (some cells) chain Allowance.standard "A1" []
    [Token.finish 2] token ⟨"A1", "=B1", .empty⟩ lexed rfl rfl (by cbv) (by cbv)
  simp only [spliced] at means
  constructor
  · have evaluated : evaluateWithin (some cells) free Allowance.standard "A1" =
        .ok (.text "x") := by cbv
    exact (means free).1 _ evaluated
  · have bracketed : evaluateWithin (some cells) full Allowance.standard "(B1)" =
        .ok (.text "x") := by cbv
    have failed : evaluateWithin (some cells) full Allowance.standard "A1" =
        .error (.formula ((Cause.depthExceeded "A1" 1).at 0)) := by cbv
    rcases (means full).2 _ bracketed (by rw [failed]; simp) with valued | lacking
    · rw [failed] at valued
      cases valued
    · exact lacking

/-- A formula whose brackets do not match has a value in brackets, but none by itself. -/
theorem inlined_unbalanced :
    let cell : Snapshot := ⟨"A1", "=1)<(2", .empty⟩
    let cells : Accessor := fun name => if name = "A1" then some cell else none
    let chain := Chain.start none Chain.defaultDepth (by decide)
    let token : Token := ⟨.cellReference, "A1", 0⟩
    tokenize "A1" (bodyStart "A1") = .ok [token, Token.finish 2] ∧ cell.isFormula ∧
      bodyStart cell.rawExpression < cell.rawExpression.length ∧
      inlined "A1" token cell.rawExpression = "(1)<(2)" ∧
      evaluate (some cells) chain "(1)<(2)" = .ok (.boolean true) ∧
      ∃ fault, evaluate (some cells) chain "A1" = .error fault ∧ fault.code = "parse_error" := by
  intro cell cells chain token
  have lexed : tokenize "A1" (bodyStart "A1") = .ok [token, Token.finish 2] := by cbv
  have formula : cell.isFormula := by decide
  have inner_visible : bodyStart cell.rawExpression < cell.rawExpression.length := by decide
  refine ⟨lexed, formula, inner_visible, by cbv, ?_, ?_⟩
  · have lexed : tokenize "(1)<(2)" (bodyStart "(1)<(2)") =
        .ok [⟨.leftParen, "(", 0⟩, ⟨.number, "1", 1⟩, ⟨.rightParen, ")", 2⟩, ⟨.less, "<", 3⟩,
          ⟨.leftParen, "(", 4⟩, ⟨.number, "2", 5⟩, ⟨.rightParen, ")", 6⟩, Token.finish 7] := by cbv
    have visible : bodyStart "(1)<(2)" < "(1)<(2)".length := by decide
    have spent : Allowance.spend Allowance.bracket Allowance.standard = .ok (some 956) := rfl
    have compared : Operator.less.apply 3 (numeralValue "1") (numeralValue "2") =
        .ok (.boolean true) := by decide +kernel
    rw [evaluate, evaluateWithin_lexed _ _ _ visible lexed]
    simp only [evaluateTokens_eq, Bare.comparison_eq, Bare.sum_eq, Bare.product_eq,
      Bare.factor_cons, spent, ok_bind, Bare.multipliers_cons, Bare.addends_cons,
      TokenKind.product?, TokenKind.sum?, TokenKind.comparison?, Bare.expect_cons, if_true,
      compared, Token.finish]
    rfl
  · have visible : bodyStart "A1" < "A1".length := by decide
    have inner_lexed : tokenize cell.rawExpression (bodyStart cell.rawExpression) =
        .ok [⟨.number, "1", 1⟩, ⟨.rightParen, ")", 2⟩, ⟨.less, "<", 3⟩, ⟨.leftParen, "(", 4⟩,
          ⟨.number, "2", 5⟩, Token.finish 6] := by cbv
    let fault : Fault := .formula (.unexpected ⟨.rightParen, ")", 2⟩)
    have refused (inner : Chain) (left : Allowance) :
        evaluateWithin (some cells) inner left cell.rawExpression = .error fault := by
      rw [evaluateWithin_lexed _ _ _ inner_visible inner_lexed]
      simp only [evaluateTokens_eq, Bare.comparison_eq, Bare.sum_eq, Bare.product_eq,
        Bare.factor_cons, ok_bind, Bare.multipliers_cons, Bare.addends_cons, TokenKind.product?,
        TokenKind.sum?, TokenKind.comparison?]
      rfl
    obtain ⟨inner, entered⟩ : ∃ inner, chain.enter "A1" = .ok inner := ⟨_, rfl⟩
    have followed : referenceValue (some cells) chain Allowance.standard token =
        .error fault.elsewhere := by
      have resolved : findCell (some cells) chain "A1" = .ok cell := rfl
      rw [referenceValue, resolved, mapError_ok, ok_bind, if_pos formula, entered]
      simp only [mapError_ok, ok_bind, refused]
      rfl
    refine ⟨fault.elsewhere, ?_, rfl⟩
    rw [evaluate, evaluateWithin_lexed _ _ _ visible lexed]
    simp only [evaluateTokens_eq, Bare.comparison_eq, Bare.sum_eq, Bare.product_eq,
      Bare.factor_cons, token, followed, error_bind]

end FormulaGrid.Evaluation
