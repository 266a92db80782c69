import FormulaGrid.Proofs.Body
import Mathlib.Data.List.Forall2

/-! A text with the body of another one in brackets in place of one of its tokens. Its tokens are
those of both, since no bracket is ever part of a longer token; only their offsets change. -/
namespace FormulaGrid.Token

open FormulaGrid.Text

def Similar (t u : Token) : Prop :=
  t.kind = u.kind ∧ t.lexeme = u.lexeme

theorem similar_refl (tokens : List Token) : List.Forall₂ Similar tokens tokens :=
  List.forall₂_same.2 fun _ _ => ⟨rfl, rfl⟩

def opening : Token :=
  ⟨.leftParen, "(", 0⟩

def closing : Token :=
  ⟨.rightParen, ")", 0⟩

section Brackets

variable {kind : TokenKind} {c : Char}

theorem extends_bracket (bracket : c = '(' ∨ c = ')') : extends? kind c = false := by
  rcases bracket with rfl | rfl <;> cases kind <;> rfl

theorem Lexeme.eq_bracket {lexeme : List Char} (shaped : Lexeme kind lexeme)
    (bracket : c = '(' ∨ c = ')') (member : c ∈ lexeme) : lexeme = [c] := by
  have plain : ¬ isAsciiDigit c ∧ ¬ isAsciiUpper c ∧ ¬ isAsciiLower c := by
    rcases bracket with rfl | rfl <;> decide
  obtain ⟨noDigit, noUpper, noLower⟩ := plain
  cases shaped with
  | number digits nonempty all => exact absurd (all c member) noDigit
  | cellReference letters digits lettered allLetters numbered allDigits =>
    rcases List.mem_append.1 member with among | among
    · exact absurd (allLetters c among) noUpper
    · exact absurd (allDigits c among) noDigit
  | word _ word all known => exact absurd (all c member) noLower
  | operator _ d known => rw [List.mem_singleton.1 member]

end Brackets

section Segments

variable {position stop : Nat} {cs rest : List Char} {body tokens before after : List Token}
  {token : Token} {c : Char}

theorem Segments.moved (segments : Segments position cs (body ++ [Token.finish stop]))
    (place : Nat) :
    ∃ others, Segments place cs (others ++ [Token.finish (place + cs.length)]) ∧
      List.Forall₂ Similar body others := by
  generalize whole : body ++ [Token.finish stop] = tokens at segments
  induction segments generalizing body place with
  | finish position =>
    obtain ⟨rfl, _⟩ := List.append_eq_singleton_iff.1 whole |>.resolve_right (by simp)
    exact ⟨[], .finish place, .nil⟩
  | blank position c cs tokens blank more ih =>
    obtain ⟨others, segments, similar⟩ := ih (place + 1) whole
    refine ⟨others, ?_, similar⟩
    rw [List.length_cons, Nat.add_comm cs.length, ← Nat.add_assoc]
    exact .blank place c cs _ blank segments
  | token position kind lexeme rest tokens shaped ends more ih =>
    cases body with
    | nil =>
      obtain ⟨same, _⟩ := List.cons.inj whole
      exact absurd (congrArg Token.kind same).symm shaped.ne_end
    | cons first body =>
      obtain ⟨rfl, tail⟩ := List.cons.inj whole
      obtain ⟨others, segments, similar⟩ := ih (place + lexeme.length) tail
      refine ⟨⟨kind, String.ofList lexeme, place⟩ :: others, ?_, .cons ⟨rfl, rfl⟩ similar⟩
      rw [List.length_append, ← Nat.add_assoc]
      exact .token place kind lexeme rest _ shaped ends segments

/-- The tokens of two texts joined are those of both, if no lexeme reaches into the second one. -/
theorem Segments.join (first : Segments position cs (body ++ [Token.finish stop]))
    (apart : ∀ kind c, rest.head? = some c → extends? kind c = false)
    (second : Segments (position + cs.length) rest tokens) :
    Segments position (cs ++ rest) (body ++ tokens) := by
  generalize whole : body ++ [Token.finish stop] = all at first
  induction first generalizing body with
  | finish position =>
    obtain ⟨rfl, _⟩ := List.append_eq_singleton_iff.1 whole |>.resolve_right (by simp)
    exact second
  | blank position c cs all blank more ih =>
    rw [List.length_cons, Nat.add_comm cs.length, ← Nat.add_assoc] at second
    exact .blank position c _ _ blank (ih second whole)
  | token position kind lexeme others all shaped ends more ih =>
    cases body with
    | nil =>
      obtain ⟨same, _⟩ := List.cons.inj whole
      exact absurd (congrArg Token.kind same).symm shaped.ne_end
    | cons token body =>
      obtain ⟨rfl, tail⟩ := List.cons.inj whole
      rw [List.length_append, ← Nat.add_assoc] at second
      rw [List.append_assoc]
      refine .token position kind lexeme _ _ shaped (fun c head => ?_) (ih second tail)
      cases others with
      | nil => exact apart kind c head
      | cons other others => exact ends c head

/-- A text cut off behind one of its tokens goes on with the tokens behind that one. -/
theorem Segments.onwards (segments : Segments position cs (before ++ token :: after))
    (inside : token.kind ≠ .endOfInput) :
    Segments (token.position + token.lexeme.length)
      (cs.drop (token.position - position + token.lexeme.length)) after := by
  generalize whole : before ++ token :: after = tokens at segments
  induction segments generalizing before with
  | finish position =>
    obtain ⟨_, same⟩ := List.append_eq_singleton_iff.1 whole |>.resolve_right (by simp)
    obtain ⟨rfl, _⟩ := List.cons.inj same
    exact absurd rfl inside
  | blank position c cs tokens blank more ih =>
    have later := more.position_le (show token ∈ tokens by simp [← whole])
    have one : token.position - position = token.position - (position + 1) + 1 := by omega
    rw [one, Nat.add_right_comm, List.drop_succ_cons]
    exact ih whole
  | token position kind lexeme rest tokens shaped ends more ih =>
    cases before with
    | nil =>
      obtain ⟨rfl, rfl⟩ := List.cons.inj whole
      change Segments (position + (String.ofList lexeme).length)
        ((lexeme ++ rest).drop (position - position + (String.ofList lexeme).length)) _
      rw [String.length_ofList, Nat.sub_self, Nat.zero_add, List.drop_left]
      exact more
    | cons first before =>
      obtain ⟨rfl, tail⟩ := List.cons.inj whole
      have later := more.position_le (show token ∈ tokens by simp [← tail])
      have past : token.position - position =
          lexeme.length + (token.position - (position + lexeme.length)) := by omega
      rw [past, Nat.add_assoc, ← List.drop_drop, List.drop_left]
      exact ih tail

/-- The tokens of a text with other characters in brackets in place of one of its tokens. -/
theorem Segments.inlined {start : Nat} {inner : List Char}
    (segments : Segments position cs (before ++ token :: after))
    (inside : token.kind ≠ .endOfInput)
    (other : Segments start inner (body ++ [Token.finish stop])) :
    ∃ others, Segments position
        (cs.take (token.position - position) ++ '(' :: (inner ++ ')' ::
          cs.drop (token.position - position + token.lexeme.length))) others ∧
      List.Forall₂ Similar (before ++ opening :: (body ++ closing :: after)) others := by
  have cut := segments.cut
  have length : (cs.take (token.position - position)).length = token.position - position := by
    have within := segments.position_le_end (show token ∈ before ++ token :: after by simp)
    rw [List.length_take]
    omega
  have apart {d : Char} {ds : List Char} (bracket : d = '(' ∨ d = ')') (kind : TokenKind) (c : Char)
      (head : (d :: ds).head? = some c) : extends? kind c = false :=
    extends_bracket (Option.some.inj head ▸ bracket)
  have further := segments.onwards inside
  obtain ⟨rest, rfl, _⟩ := further.marked
  generalize cs.take (token.position - position) = head at cut length ⊢
  generalize cs.drop (token.position - position + token.lexeme.length) = tail at further ⊢
  obtain ⟨inners, inner_segments, inner_similar⟩ := other.moved (position + head.length + 1)
  obtain ⟨rests, rest_segments, rest_similar⟩ :=
    further.moved (position + head.length + 1 + inner.length + 1)
  have closed : Segments (position + head.length + 1 + inner.length) (')' :: tail) (_ :: _) :=
    .token _ .rightParen [')'] tail _ (.operator .rightParen ')' rfl) (fun _ _ => rfl) rest_segments
  have joined : Segments (position + head.length + 1) (inner ++ ')' :: tail) (inners ++ _) :=
    inner_segments.join (apart (.inr rfl)) closed
  have opened : Segments (position + head.length) ('(' :: (inner ++ ')' :: tail)) (_ :: _) :=
    .token _ .leftParen ['('] _ _ (.operator .leftParen '(' rfl) (fun _ _ => rfl) joined
  refine ⟨_, cut.join (apart (.inl rfl)) opened, ?_⟩
  refine List.rel_append (similar_refl before) (.cons ⟨rfl, rfl⟩ (List.rel_append inner_similar ?_))
  exact .cons ⟨rfl, rfl⟩ (List.rel_append rest_similar (.cons ⟨rfl, rfl⟩ .nil))

theorem Segments.split (bracket : c = '(' ∨ c = ')')
    (segments : Segments position (cs ++ c :: rest) tokens) :
    (∃ others, Segments position cs others) ∧
      ∃ more, Segments (position + cs.length) (c :: rest) more := by
  generalize whole : cs ++ c :: rest = all at segments
  induction segments generalizing cs with
  | finish position => simp at whole
  | blank position d ds tokens blank more ih =>
    cases cs with
    | nil =>
      cases whole
      exact ⟨⟨_, .finish position⟩, _, .blank position c rest tokens blank more⟩
    | cons first cs =>
      obtain ⟨rfl, tail⟩ := List.cons.inj whole
      obtain ⟨⟨others, front⟩, further, back⟩ := ih tail
      refine ⟨⟨others, .blank position first cs others blank front⟩, further, ?_⟩
      rwa [List.length_cons, Nat.add_comm cs.length, ← Nat.add_assoc]
  | token position kind lexeme others tokens shaped ends more ih =>
    rcases List.append_eq_append_iff.1 whole with ⟨mid, same, further⟩ | ⟨mid, rfl, further⟩
    · cases mid with
      | nil =>
        obtain rfl : others = c :: rest := further.symm
        obtain rfl : lexeme = cs := by simpa using same
        have front := Segments.token position kind lexeme [] _ shaped (by simp) (.finish _)
        rw [List.append_nil] at front
        exact ⟨⟨_, front⟩, tokens, more⟩
      | cons d mid =>
        obtain ⟨rfl, rfl⟩ := List.cons.inj further
        have alone : lexeme = [c] := shaped.eq_bracket bracket (by simp [same])
        rw [alone] at same
        obtain ⟨rfl, shape⟩ := List.append_eq_singleton_iff.1 same.symm |>.resolve_right (by simp)
        obtain ⟨_, rfl⟩ := List.cons.inj shape
        subst alone
        exact ⟨⟨_, .finish position⟩, _, .token position kind [c] _ tokens shaped ends more⟩
    · obtain ⟨⟨front_tokens, front⟩, back_tokens, back⟩ := ih further.symm
      subst further
      refine ⟨⟨_, .token position kind lexeme mid front_tokens shaped (fun d head => ?_) front⟩,
        back_tokens, ?_⟩
      · cases mid with
        | nil => cases head
        | cons first mid => exact ends d head
      · rwa [List.length_append, ← Nat.add_assoc]

theorem Segments.behind (bracket : c = '(' ∨ c = ')')
    (segments : Segments position (c :: rest) tokens) :
    ∃ more, Segments (position + 1) rest more := by
  generalize whole : c :: rest = cs at segments
  cases segments with
  | finish => cases whole
  | blank _ _ _ _ _ more =>
    cases whole
    exact ⟨tokens, more⟩
  | token _ kind lexeme others tokens shaped ends more =>
    have member : c ∈ lexeme := by
      cases lexeme with
      | nil => exact absurd rfl shaped.ne_nil
      | cons d lexeme =>
        cases whole
        exact List.mem_cons_self
    obtain rfl := shaped.eq_bracket bracket member
    cases whole
    exact ⟨tokens, more⟩

end Segments

/-- A text with the body of another one, in brackets, in place of a token. -/
def inlined (text : String) (token : Token) (other : String) : String :=
  String.ofList (text.toList.take token.position ++ '(' :: (other.toList.drop (bodyStart other) ++
    ')' :: text.toList.drop (token.position + token.lexeme.length)))

section Inlining

variable {text : String} (other : String) {before after body others : List Token}
  {token mark : Token}

theorem toList_inlined {lead : List Char} (split : text.toList = lead ++ Token.body text.toList)
    (later : lead.length ≤ token.position) :
    (inlined text token other).toList =
      lead ++ ((Token.body text.toList).take (token.position - lead.length) ++ '(' ::
        (Token.body other.toList ++ ')' :: (Token.body text.toList).drop
          (token.position - lead.length + token.lexeme.length))) := by
  have past : token.position + token.lexeme.length =
      lead.length + (token.position - lead.length + token.lexeme.length) := by omega
  have dropped : text.toList.drop lead.length = Token.body text.toList :=
    (congrArg (List.drop lead.length) split).trans List.drop_left
  have taken : text.toList.take token.position =
      lead ++ (Token.body text.toList).take (token.position - lead.length) := by
    rw [congrArg (List.take token.position) split, List.take_append,
      List.take_of_length_le later]
  rw [inlined, String.toList_ofList, drop_bodyStart, past, ← List.drop_drop, dropped, taken,
    List.append_assoc]

theorem head_inlined {cs more : List Char} {start : Nat} {c : Char}
    (head : ((Token.body cs).take start ++ '(' :: more).head? = some c) :
    isBlank c = false ∧ (c = '=' → (Token.body cs).head? = some '=') := by
  cases shape : (Token.body cs).take start with
  | nil =>
    rw [shape] at head
    cases head
    exact ⟨rfl, fun sign => absurd sign (by decide)⟩
  | cons d ds =>
    have first : ((Token.body cs).take start).head? = some c := by
      rw [shape] at head ⊢
      exact head
    rw [List.head?_take] at first
    split at first
    · cases first
    · exact ⟨head_body first, fun sign => sign ▸ first⟩

theorem inlined_split (lexed : tokenize text (bodyStart text) = .ok (before ++ token :: after)) :
    ∃ lead, text.toList = lead ++ Token.body text.toList ∧
      (inlined text token other).toList = lead ++ Token.body (inlined text token other).toList ∧
      Token.body (inlined text token other).toList =
        (Token.body text.toList).take (token.position - lead.length) ++ '(' ::
          (Token.body other.toList ++ ')' :: (Token.body text.toList).drop
            (token.position - lead.length + token.lexeme.length)) := by
  obtain ⟨lead, split, leads⟩ := lead_body text.toList
  rw [tokenize_eq split] at lexed
  have later : lead.length ≤ token.position :=
    (scan_ok_iff.1 lexed).position_le (show token ∈ before ++ token :: after by simp)
  have whole := toList_inlined other split later
  have rest := congrArg Token.body whole
  rw [leads _ fun c head => head_inlined head] at rest
  exact ⟨lead, split, by rw [rest, whole], rest⟩

theorem bodyStart_inlined
    (lexed : tokenize text (bodyStart text) = .ok (before ++ token :: after)) :
    bodyStart (inlined text token other) < (inlined text token other).length := by
  obtain ⟨lead, _, split, rest⟩ := inlined_split other lexed
  rw [bodyStart_eq split, ← String.length_toList, split, List.length_append, rest]
  simp only [List.length_append, List.length_cons]
  omega

variable {other}

theorem tokenize_inlined (lexed : tokenize text (bodyStart text) = .ok (before ++ token :: after))
    (inside : token.kind ≠ .endOfInput)
    (also : tokenize other (bodyStart other) = .ok (body ++ [mark])) :
    ∃ others, tokenize (inlined text token other) (bodyStart (inlined text token other)) =
        .ok others ∧
      List.Forall₂ Similar (before ++ opening :: (body ++ closing :: after)) others := by
  obtain ⟨lead, split, cut, rest⟩ := inlined_split other lexed
  obtain ⟨other_lead, other_split, _⟩ := lead_body other.toList
  rw [tokenize_eq split] at lexed
  rw [tokenize_eq other_split] at also
  have inner := scan_ok_iff.1 also
  obtain ⟨tokens, whole, _⟩ := inner.marked
  obtain ⟨_, same⟩ := List.append_inj' whole rfl
  obtain ⟨rfl, _⟩ := List.cons.inj same
  obtain ⟨others, spliced, similar⟩ := (scan_ok_iff.1 lexed).inlined inside inner
  rw [tokenize_eq cut, rest]
  exact ⟨others, scan_ok_iff.2 spliced, similar⟩

theorem tokenize_of_inlined
    (lexed : tokenize text (bodyStart text) = .ok (before ++ token :: after))
    (spliced : tokenize (inlined text token other) (bodyStart (inlined text token other)) =
      .ok others) :
    ∃ tokens, tokenize other (bodyStart other) = .ok tokens := by
  obtain ⟨lead, _, cut, rest⟩ := inlined_split other lexed
  obtain ⟨other_lead, other_split, _⟩ := lead_body other.toList
  rw [tokenize_eq cut, rest] at spliced
  obtain ⟨_, _, opened⟩ := (scan_ok_iff.1 spliced).split (.inl rfl)
  obtain ⟨_, behind⟩ := opened.behind (.inl rfl)
  obtain ⟨⟨tokens, inner⟩, _⟩ := behind.split (.inr rfl)
  obtain ⟨body, rfl, _⟩ := inner.marked
  obtain ⟨others, segments, _⟩ := inner.moved other_lead.length
  rw [tokenize_eq other_split]
  exact ⟨_, scan_ok_iff.2 segments⟩

end Inlining

end FormulaGrid.Token
