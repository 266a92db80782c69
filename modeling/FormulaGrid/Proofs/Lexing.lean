import FormulaGrid.Proofs.Failure
import FormulaGrid.Proofs.Text
import FormulaGrid.Token.Lexer

/-! The segments of a text, apart from any scan: lexemes of known shapes, none of which the next
character would extend, with nothing but whitespace between them. Scanning finds exactly these. -/
namespace FormulaGrid.Token

open FormulaGrid.Text FormulaGrid.Failure

/-- The shapes of lexemes. -/
inductive Lexeme : TokenKind → List Char → Prop
  | number (digits : List Char) (nonempty : digits ≠ []) (all : ∀ c ∈ digits, isAsciiDigit c) :
      Lexeme .number digits
  | cellReference (letters digits : List Char) (lettered : letters ≠ [])
      (allLetters : ∀ c ∈ letters, isAsciiUpper c) (numbered : digits ≠ [])
      (allDigits : ∀ c ∈ digits, isAsciiDigit c) : Lexeme .cellReference (letters ++ digits)
  | word (kind : TokenKind) (word : List Char) (all : ∀ c ∈ word, isAsciiLower c)
      (known : wordKind? (String.ofList word) = some kind) : Lexeme kind word
  | operator (kind : TokenKind) (c : Char) (known : operatorKind? c = some kind) : Lexeme kind [c]

/-- Whether a character right after a lexeme would belong to it. -/
def extends? : TokenKind → Char → Bool
  | .number, c | .cellReference, c => isAsciiDigit c
  | .not, c | .function, c => isAsciiLower c
  | _, _ => false

/-- The tokens of a text whose first character has offset `position`, with the mark of its end. -/
inductive Segments : Nat → List Char → List Token → Prop
  | finish (position : Nat) : Segments position [] [finish position]
  | blank (position : Nat) (c : Char) (cs : List Char) (tokens : List Token) (blank : isBlank c)
      (more : Segments (position + 1) cs tokens) : Segments position (c :: cs) tokens
  | token (position : Nat) (kind : TokenKind) (lexeme rest : List Char) (tokens : List Token)
      (shaped : Lexeme kind lexeme) (ends : ∀ c, rest.head? = some c → extends? kind c = false)
      (more : Segments (position + lexeme.length) rest tokens) :
      Segments position (lexeme ++ rest) (⟨kind, String.ofList lexeme, position⟩ :: tokens)

theorem range_of_operatorKind {c : Char} {kind : TokenKind} (known : operatorKind? c = some kind) :
    (40 ≤ c.toNat ∧ c.toNat ≤ 47) ∨ (60 ≤ c.toNat ∧ c.toNat ≤ 62) := by
  unfold operatorKind? at known
  split at known <;> first | decide | cases known

theorem wordKind_cases {word : String} {kind : TokenKind} (known : wordKind? word = some kind) :
    kind = .not ∨ kind = .function := by
  unfold wordKind? at known
  split at known
  · exact .inl (Option.some.inj known).symm
  · split at known
    · exact .inr (Option.some.inj known).symm
    · cases known

theorem extends_operator {kind : TokenKind} {c : Char} (known : operatorKind? c = some kind)
    (next : Char) : extends? kind next = false := by
  unfold operatorKind? at known
  split at known <;> cases known <;> rfl

theorem first_ok {c : Char} {cs : List Char} {position : Nat} {token : Token}
    (found : first c cs position = .ok token) :
    ∃ kind lexeme, c :: cs = lexeme ++ afterFirst c cs ∧ Lexeme kind lexeme ∧
      (∀ d, (afterFirst c cs).head? = some d → extends? kind d = false) ∧
      token = ⟨kind, String.ofList lexeme, position⟩ := by
  unfold first at found
  unfold afterFirst
  split at found
  next digit =>
    cases found
    rw [if_pos digit]
    exact ⟨.number, _, (run_append _ c cs).symm, .number _ (by simp) (all_run digit), head_dropWhile, rfl⟩
  next noDigit =>
    rw [if_neg noDigit]
    split at found
    next upper =>
      dsimp only at found
      split at found
      · cases found
      next numbered =>
        cases found
        rw [if_pos upper]
        refine ⟨.cellReference, _, ?_, .cellReference _ _ (by simp) (all_run upper)
          (by simpa using numbered) all_takeWhile, head_dropWhile, rfl⟩
        rw [List.append_assoc, List.takeWhile_append_dropWhile, run_append]
    next noUpper =>
      rw [if_neg noUpper]
      split at found
      next lower =>
        dsimp only at found
        split at found
        next kind known =>
          cases found
          rw [if_pos lower]
          refine ⟨kind, _, (run_append _ c cs).symm, .word _ _ (all_run lower) known, ?_, rfl⟩
          rcases wordKind_cases known with rfl | rfl <;> exact head_dropWhile
        next => cases found
      next noLower =>
        split at found
        next kind known =>
          cases found
          rw [if_neg noLower]
          exact ⟨kind, [c], rfl, .operator kind c known, fun d _ => extends_operator known d, rfl⟩
        next => cases found

theorem first_lexeme {kind : TokenKind} {c : Char} {lexeme rest : List Char}
    (shaped : Lexeme kind (c :: lexeme))
    (ends : ∀ d, rest.head? = some d → extends? kind d = false) (position : Nat) :
    isBlank c = false ∧ afterFirst c (lexeme ++ rest) = rest ∧
      first c (lexeme ++ rest) position = .ok ⟨kind, String.ofList (c :: lexeme), position⟩ := by
  generalize whole : c :: lexeme = written at shaped
  cases shaped with
  | number digits nonempty all =>
    subst whole
    obtain ⟨digit, others⟩ := List.forall_mem_cons.1 all
    have range := isAsciiDigit_iff.1 digit
    refine ⟨isBlank_eq_false (by omega) (by omega), ?_, ?_⟩
    · rw [afterFirst, if_pos digit, dropWhile_run others ends]
    · rw [first, if_pos digit, takeWhile_run others ends]
  | cellReference letters digits lettered allLetters numbered allDigits =>
    cases letters with
    | nil => exact absurd rfl lettered
    | cons letter letters =>
      simp only [List.cons_append, List.cons.injEq] at whole
      obtain ⟨rfl, rfl⟩ := whole
      obtain ⟨upper, others⟩ := List.forall_mem_cons.1 allLetters
      have range := isAsciiUpper_iff.1 upper
      have noDigit : isAsciiDigit c = false := isAsciiDigit_eq_false (by omega)
      have stops (d : Char) (head : (digits ++ rest).head? = some d) : isAsciiUpper d = false := by
        cases digits with
        | nil => exact absurd rfl numbered
        | cons digit digits =>
          cases head
          have bounds := isAsciiDigit_iff.1 (allDigits d (by simp))
          exact isAsciiUpper_eq_false (by omega)
      refine ⟨isBlank_eq_false (by omega) (by omega), ?_, ?_⟩
      · simp only [afterFirst, noDigit, upper, List.append_assoc, dropWhile_run others stops,
          dropWhile_run allDigits ends]
        rfl
      · simp only [first, noDigit, upper, List.append_assoc, takeWhile_run others stops,
          dropWhile_run others stops, takeWhile_run allDigits ends]
        simp [numbered]
  | word _ word all known =>
    subst whole
    obtain ⟨lower, others⟩ := List.forall_mem_cons.1 all
    have range := isAsciiLower_iff.1 lower
    have noDigit : isAsciiDigit c = false := isAsciiDigit_eq_false (by omega)
    have noUpper : isAsciiUpper c = false := isAsciiUpper_eq_false (by omega)
    have stops (d : Char) (head : rest.head? = some d) : isAsciiLower d = false := by
      have free := ends d head
      rcases wordKind_cases known with rfl | rfl <;> exact free
    refine ⟨isBlank_eq_false (by omega) (by omega), ?_, ?_⟩
    · simp only [afterFirst, noDigit, noUpper, lower, dropWhile_run others stops]
      rfl
    · simp only [first, noDigit, noUpper, lower, takeWhile_run others stops, known]
      rfl
  | operator _ d known =>
    cases whole
    have range := range_of_operatorKind known
    have noDigit : isAsciiDigit c = false := isAsciiDigit_eq_false (by omega)
    have noUpper : isAsciiUpper c = false := isAsciiUpper_eq_false (by omega)
    have noLower : isAsciiLower c = false := isAsciiLower_eq_false (by omega)
    refine ⟨isBlank_eq_false (by omega) (by omega), ?_, ?_⟩
    · simp only [afterFirst, noDigit, noUpper, noLower]
      rfl
    · simp only [first, noDigit, noUpper, noLower, known]
      rfl

theorem Lexeme.ne_nil {kind : TokenKind} {lexeme : List Char} (shaped : Lexeme kind lexeme) :
    lexeme ≠ [] := by
  cases shaped with
  | number digits nonempty => exact nonempty
  | cellReference letters digits lettered => simp [lettered]
  | word _ word all known =>
    rintro rfl
    have unknown : wordKind? (String.ofList []) = none := by decide
    rw [unknown] at known
    cases known
  | operator _ c known => simp

theorem Lexeme.ne_end {kind : TokenKind} {lexeme : List Char} (shaped : Lexeme kind lexeme) :
    kind ≠ .endOfInput := by
  cases shaped with
  | number | cellReference => decide
  | word _ word all known => rcases wordKind_cases known with rfl | rfl <;> decide
  | operator _ c known =>
    unfold operatorKind? at known
    split at known <;> cases known <;> decide

theorem Lexeme.reference {lexeme : List Char} (shaped : Lexeme .cellReference lexeme) :
    ∃ letters digits, lexeme = letters ++ digits ∧ letters ≠ [] ∧ (∀ c ∈ letters, isAsciiUpper c) ∧
      digits ≠ [] ∧ ∀ c ∈ digits, isAsciiDigit c := by
  generalize refers : TokenKind.cellReference = kind at shaped
  cases shaped with
  | number => cases refers
  | cellReference letters digits lettered allLetters numbered allDigits =>
    exact ⟨letters, digits, rfl, lettered, allLetters, numbered, allDigits⟩
  | word _ word all known =>
    subst refers
    rcases wordKind_cases known with other | other <;> cases other
  | operator _ c known =>
    subst refers
    unfold operatorKind? at known
    split at known <;> cases known

/-- Scanning finds the segments of a text, and no others. -/
theorem scan_ok_iff {position : Nat} {cs : List Char} {tokens : List Token} :
    scan position cs = .ok tokens ↔ Segments position cs tokens := by
  constructor
  · intro scanned
    fun_induction scan position cs generalizing tokens with
    | case1 position =>
      cases scanned
      exact .finish position
    | case2 position c cs blank ih => exact .blank position c cs tokens blank (ih scanned)
    | case3 position c cs blank ih =>
      obtain ⟨token, found, scanned⟩ := bind_eq_ok.1 scanned
      obtain ⟨kind, lexeme, whole, shaped, ends, rfl⟩ := first_ok found
      obtain ⟨others, more, scanned⟩ := bind_eq_ok.1 scanned
      cases scanned
      have segments := ih _ more
      rw [String.length_ofList] at segments
      rw [whole]
      exact .token position kind lexeme _ others shaped ends segments
  · intro segments
    induction segments with
    | finish position => rw [scan.eq_def]
    | blank position c cs tokens blank more ih =>
      rw [scan.eq_def]
      exact (if_pos blank).trans ih
    | token position kind lexeme rest tokens shaped ends more ih =>
      cases lexeme with
      | nil => exact absurd rfl shaped.ne_nil
      | cons c lexeme =>
        obtain ⟨visible, after, found⟩ := first_lexeme shaped ends position
        rw [List.cons_append, scan.eq_def]
        simp only [visible, Bool.false_eq_true, if_false, found, after, ok_bind,
          String.length_ofList, ih]
        rfl

theorem Segments.shaped {position : Nat} {cs : List Char} {tokens : List Token} {token : Token}
    (segments : Segments position cs tokens) (member : token ∈ tokens)
    (inside : token.kind ≠ .endOfInput) : Lexeme token.kind token.lexeme.toList := by
  induction segments with
  | finish position =>
    obtain rfl := List.mem_singleton.1 member
    exact absurd rfl inside
  | blank position c cs tokens blank more ih => exact ih member
  | token position kind lexeme rest tokens shaped ends more ih =>
    rcases List.mem_cons.1 member with rfl | later
    · rw [String.toList_ofList]
      exact shaped
    · exact ih later

theorem first_error_code {c : Char} {cs : List Char} {position : Nat} {error : FormulaError}
    (failed : first c cs position = .error error) : error.cause.code = "lex_error" := by
  unfold first at failed
  split at failed
  · cases failed
  split at failed
  · dsimp only at failed
    split at failed <;> cases failed
    rfl
  split at failed
  · dsimp only at failed
    split at failed <;> cases failed
    rfl
  · split at failed <;> cases failed
    rfl

theorem scan_error_code {position : Nat} {cs : List Char} {error : FormulaError}
    (failed : scan position cs = .error error) : error.cause.code = "lex_error" := by
  fun_induction scan position cs with
  | case1 => cases failed
  | case2 position c cs blank ih => exact ih failed
  | case3 position c cs blank ih =>
    rcases bind_eq_error.1 failed with failed | ⟨token, found, failed⟩
    · exact first_error_code failed
    · rcases bind_eq_error.1 failed with failed | ⟨others, _, failed⟩
      · exact ih token failed
      · cases failed

section Ends

variable {position : Nat} {cs : List Char} {tokens : List Token}

theorem Segments.marked (segments : Segments position cs tokens) :
    ∃ body, tokens = body ++ [Token.finish (position + cs.length)] ∧
      ∀ token ∈ body, token.kind ≠ .endOfInput := by
  induction segments with
  | finish position => exact ⟨[], rfl, by simp⟩
  | blank position c cs tokens blank more ih =>
    obtain ⟨body, rfl, inside⟩ := ih
    refine ⟨body, ?_, inside⟩
    rw [List.length_cons, Nat.add_assoc, Nat.add_comm 1]
  | token position kind lexeme rest tokens shaped ends more ih =>
    obtain ⟨body, rfl, inside⟩ := ih
    refine ⟨⟨kind, String.ofList lexeme, position⟩ :: body, ?_, ?_⟩
    · rw [List.length_append, Nat.add_assoc, List.cons_append]
    · exact List.forall_mem_cons.2 ⟨shaped.ne_end, inside⟩

/-- Where there is no token but the mark of the end, everything is blank. -/
theorem Segments.blank_of_finish {stop : Nat}
    (segments : Segments position cs [Token.finish stop]) : ∀ c ∈ cs, isBlank c := by
  generalize whole : [Token.finish stop] = tokens at segments
  induction segments with
  | finish => simp
  | blank position c cs tokens blank more ih => exact List.forall_mem_cons.2 ⟨blank, ih whole⟩
  | token position kind lexeme rest tokens shaped =>
    exact absurd (congrArg Token.kind (List.cons.inj whole).1).symm shaped.ne_end

theorem Segments.position_le {token : Token} (segments : Segments position cs tokens)
    (member : token ∈ tokens) : position ≤ token.position := by
  induction segments with
  | finish position =>
    obtain rfl := List.mem_singleton.1 member
    exact Nat.le_refl position
  | blank position c cs tokens blank more ih =>
    have later := ih member
    omega
  | token position kind lexeme rest tokens shaped ends more ih =>
    rcases List.mem_cons.1 member with rfl | member
    · exact Nat.le_refl position
    · have later := ih member
      omega

theorem Segments.position_lt {before rest : List Token} {found : Token}
    (segments : Segments position cs (before ++ found :: rest)) (nonempty : before ≠ []) :
    position < found.position := by
  generalize all : before ++ found :: rest = tokens at segments
  induction segments with
  | finish position =>
    cases before with
    | nil => exact absurd rfl nonempty
    | cons token before => simp at all
  | blank position c cs tokens blank more ih => exact Nat.lt_of_succ_lt (ih all)
  | token position kind lexeme others tokens shaped ends more ih =>
    cases before with
    | nil => exact absurd rfl nonempty
    | cons token before =>
      obtain ⟨rfl, tail⟩ := List.cons.inj all
      have later := more.position_le (show found ∈ tokens by simp [← tail])
      have length := List.length_pos_iff.2 shaped.ne_nil
      omega

theorem Segments.position_le_end {token : Token} (segments : Segments position cs tokens)
    (member : token ∈ tokens) : token.position ≤ position + cs.length := by
  induction segments with
  | finish position =>
    obtain rfl := List.mem_singleton.1 member
    exact Nat.le_refl position
  | blank position c cs tokens blank more ih =>
    have earlier := ih member
    rw [List.length_cons]
    omega
  | token position kind lexeme rest tokens shaped ends more ih =>
    rw [List.length_append]
    rcases List.mem_cons.1 member with rfl | member
    · exact Nat.le_add_right _ _
    · have earlier := ih member
      omega

theorem Segments.cut {before rest : List Token} {found : Token}
    (segments : Segments position cs (before ++ found :: rest)) :
    Segments position (cs.take (found.position - position))
      (before ++ [Token.finish found.position]) := by
  generalize all : before ++ found :: rest = tokens at segments
  induction segments generalizing before with
  | finish position =>
    obtain ⟨rfl, same⟩ := List.append_eq_singleton_iff.1 all |>.resolve_right (by simp)
    cases same
    rw [List.take_nil]
    exact .finish position
  | blank position c cs tokens blank more ih =>
    have later := more.position_le (show found ∈ tokens by simp [← all])
    rw [show found.position - position = (found.position - (position + 1)) + 1 by omega]
    exact .blank position c _ _ blank (ih all)
  | token position kind lexeme others tokens shaped ends more ih =>
    cases before with
    | nil =>
      cases all
      change Segments position (List.take (position - position) _) [Token.finish position]
      rw [Nat.sub_self]
      exact .finish position
    | cons token before =>
      obtain ⟨rfl, tail⟩ := List.cons.inj all
      have later := more.position_le (show found ∈ tokens by simp [← tail])
      have shorter : found.position - position - lexeme.length =
          found.position - (position + lexeme.length) := by omega
      rw [List.take_append, List.take_of_length_le (by omega), shorter]
      refine .token position kind lexeme _ _ shaped (fun c head => ends c ?_) (ih tail)
      rw [List.head?_take] at head
      split at head
      · cases head
      · exact head

end Ends

end FormulaGrid.Token
