import FormulaGrid.Proofs.Lexing
import Mathlib.Data.List.Basic

/-! Tokens as places in a text. Scanning finds the one list of tokens whose lexemes stand in the
text one after the other, with nothing but whitespace around them, none of which the next character
would extend. Where it fails, all before that place can be scanned, and what stands there begins no
lexeme. -/
namespace FormulaGrid.Token

open FormulaGrid.Text FormulaGrid.Failure

def words : List (String × TokenKind) := [
  ("not", .not), ("max", .function), ("min", .function), ("mmax", .function), ("mmin", .function)]

def signs : List (Char × TokenKind) := [
  ('+', .plus), ('-', .minus), ('*', .multiply), ('/', .divide), ('(', .leftParen),
  (')', .rightParen), (',', .comma), ('=', .equal), ('<', .less), ('>', .greater)]

def Shaped (token : Token) : Prop :=
  (token.kind = .number ∧ token.lexeme ≠ "" ∧ ∀ c ∈ token.lexeme.toList, isAsciiDigit c) ∨
    (token.kind = .cellReference ∧ ∃ letters digits, token.lexeme.toList = letters ++ digits ∧
      letters ≠ [] ∧ (∀ c ∈ letters, isAsciiUpper c) ∧
      digits ≠ [] ∧ ∀ c ∈ digits, isAsciiDigit c) ∨
    (token.lexeme, token.kind) ∈ words ∨
    ∃ c, token.lexeme = String.ofList [c] ∧ (c, token.kind) ∈ signs

def stop (token : Token) : Nat :=
  token.position + token.lexeme.length

/-- Whether tokens stand in a text from an offset on, in order, each at its position and as long as
it can be, with all that is not whitespace in one of them. -/
structure Covers (text : List Char) (offset : Nat) (body : List Token) : Prop where
  shaped : ∀ token ∈ body, token.Shaped
  later : ∀ token ∈ body, offset ≤ token.position
  increasing : body.Pairwise fun first second => first.position < second.position
  slice : ∀ token ∈ body,
    (text.drop token.position).take token.lexeme.length = token.lexeme.toList
  maximal : ∀ token ∈ body, ∀ c, text[token.stop]? = some c → extends? token.kind c = false
  blank : ∀ i c, offset ≤ i → text[i]? = some c →
    isBlank c ∨ ∃ token ∈ body, token.position ≤ i ∧ i < token.stop

/-- Whether no token begins before the one in front of it ends. -/
def Apart (body : List Token) : Prop :=
  body.Pairwise fun first second => first.stop ≤ second.position

/-- What keeps the characters from an offset on from beginning with a lexeme. -/
inductive Stuck (position : Nat) : Cause → List Char → Prop
  | character (c : Char) (rest : List Char) (visible : isBlank c = false)
      (noDigit : isAsciiDigit c = false) (noUpper : isAsciiUpper c = false)
      (noLower : isAsciiLower c = false)
      (noSign : ∀ kind, (c, kind) ∉ signs) :
      Stuck position (.unknownCharacter c position) (c :: rest)
  | word (word rest : List Char) (nonempty : word ≠ []) (all : ∀ c ∈ word, isAsciiLower c)
      (ends : ∀ c, rest.head? = some c → isAsciiLower c = false)
      (unknown : ∀ kind, (String.ofList word, kind) ∉ words) :
      Stuck position (.unknownKeyword (String.ofList word) position) (word ++ rest)
  | letters (letters rest : List Char) (nonempty : letters ≠ [])
      (all : ∀ c ∈ letters, isAsciiUpper c)
      (ends : ∀ c, rest.head? = some c → isAsciiUpper c = false ∧ isAsciiDigit c = false) :
      Stuck position (.malformedReference (String.ofList letters) position) (letters ++ rest)

/-- Whether no run of letters of one case goes on from one character to the next. -/
def Parted (c d : Char) : Prop :=
  ¬ (isAsciiLower c ∧ isAsciiLower d) ∧ ¬ (isAsciiUpper c ∧ isAsciiUpper d)

section Shapes

variable {token : Token}

theorem wordKind?_eq_some_iff {word : String} {kind : TokenKind} :
    wordKind? word = some kind ↔ (word, kind) ∈ words := by
  constructor
  · intro known
    unfold wordKind? at known
    split at known
    next same =>
      cases known
      simp [words, same]
    next =>
      split at known
      next called =>
        cases known
        unfold Function.ofName? at called
        split at called
        iterate 4 simp [words]
        cases called
      next => cases known
  · intro spelled
    simp only [words, List.mem_cons, List.not_mem_nil, or_false, Prod.mk.injEq] at spelled
    rcases spelled with ⟨rfl, rfl⟩ | ⟨rfl, rfl⟩ | ⟨rfl, rfl⟩ | ⟨rfl, rfl⟩ | ⟨rfl, rfl⟩ <;> decide

theorem operatorKind?_eq_some_iff {c : Char} {kind : TokenKind} :
    operatorKind? c = some kind ↔ (c, kind) ∈ signs := by
  constructor
  · intro known
    unfold operatorKind? at known
    split at known <;> cases known <;> simp [signs]
  · intro spelled
    simp only [signs, List.mem_cons, List.not_mem_nil, or_false, Prod.mk.injEq] at spelled
    rcases spelled with ⟨rfl, rfl⟩ | ⟨rfl, rfl⟩ | ⟨rfl, rfl⟩ | ⟨rfl, rfl⟩ | ⟨rfl, rfl⟩ |
      ⟨rfl, rfl⟩ | ⟨rfl, rfl⟩ | ⟨rfl, rfl⟩ | ⟨rfl, rfl⟩ | ⟨rfl, rfl⟩ <;> rfl

theorem isAsciiLower_of_words {word : String} {kind : TokenKind} (spelled : (word, kind) ∈ words) :
    ∀ c ∈ word.toList, isAsciiLower c :=
  List.all_eq_true.1
    ((by decide : ∀ entry ∈ words, entry.1.toList.all isAsciiLower) _ spelled)

theorem shaped_iff : token.Shaped ↔ Lexeme token.kind token.lexeme.toList := by
  obtain ⟨kind, word, position⟩ := token
  constructor
  · rintro (⟨same, nonempty, all⟩ | ⟨same, letters, digits, split, lettered, upper, numbered, all⟩ |
      spelled | ⟨c, same, spelled⟩)
    · obtain rfl : kind = .number := same
      exact .number _ (by simpa using nonempty) all
    · obtain rfl : kind = .cellReference := same
      change Lexeme _ word.toList
      change word.toList = _ at split
      rw [split]
      exact .cellReference letters digits lettered upper numbered all
    · exact .word kind _ (isAsciiLower_of_words spelled)
        (by simpa using wordKind?_eq_some_iff.2 spelled)
    · obtain rfl : word = String.ofList [c] := same
      simpa using Lexeme.operator kind c (operatorKind?_eq_some_iff.2 spelled)
  · intro shaped
    generalize written : word.toList = lexeme at shaped
    obtain rfl : word = String.ofList lexeme := by rw [← written, String.ofList_toList]
    cases shaped with
    | number digits nonempty all =>
      refine .inl ⟨rfl, ?_, by simpa using all⟩
      simpa using nonempty
    | cellReference letters digits lettered upper numbered all =>
      exact .inr (.inl ⟨rfl, letters, digits, by simp, lettered, upper, numbered, all⟩)
    | word _ word all known => exact .inr (.inr (.inl (wordKind?_eq_some_iff.1 known)))
    | operator _ c known =>
      exact .inr (.inr (.inr ⟨c, rfl, operatorKind?_eq_some_iff.1 known⟩))

end Shapes

section Covering

variable {text cs : List Char} {offset position : Nat} {tokens body : List Token} {token : Token}

theorem Shaped.length_pos (shaped : token.Shaped) : 0 < token.lexeme.length := by
  rw [← String.length_toList, List.length_pos_iff]
  exact (shaped_iff.1 shaped).ne_nil

theorem Covers.cons (covers : Covers text token.stop body) (shaped : token.Shaped)
    (slice : (text.drop token.position).take token.lexeme.length = token.lexeme.toList)
    (maximal : ∀ c, text[token.stop]? = some c → extends? token.kind c = false) :
    Covers text token.position (token :: body) := by
  have long := shaped.length_pos
  refine ⟨List.forall_mem_cons.2 ⟨shaped, covers.shaped⟩, List.forall_mem_cons.2 ⟨Nat.le_refl _,
    fun other member => ?_⟩, List.pairwise_cons.2 ⟨fun other member => ?_, covers.increasing⟩,
    List.forall_mem_cons.2 ⟨slice, covers.slice⟩, List.forall_mem_cons.2 ⟨maximal, covers.maximal⟩,
    fun i c behind stands => ?_⟩
  · have later := covers.later other member
    simp only [stop] at later
    omega
  · have later := covers.later other member
    simp only [stop] at later
    omega
  · by_cases inside : i < token.stop
    · exact .inr ⟨token, List.mem_cons_self, behind, inside⟩
    · rcases covers.blank i c (Nat.not_lt.1 inside) stands with blank | ⟨other, member, within⟩
      · exact .inl blank
      · exact .inr ⟨other, List.mem_cons_of_mem _ member, within⟩

theorem Covers.skip {c : Char} (covers : Covers text (position + 1) body)
    (stands : text[position]? = some c) (blank : isBlank c) : Covers text position body where
  shaped := covers.shaped
  later token member := Nat.le_of_succ_le (covers.later token member)
  increasing := covers.increasing
  slice := covers.slice
  maximal := covers.maximal
  blank i d behind found := by
    rcases Nat.eq_or_lt_of_le behind with rfl | after
    · obtain rfl : c = d := Option.some.inj (stands.symm.trans found)
      exact .inl blank
    · exact covers.blank i d after found

theorem Segments.covers (segments : Segments position cs tokens) (rest : text.drop position = cs)
    (within : position ≤ text.length) :
    ∃ body, tokens = body ++ [Token.finish text.length] ∧ Covers text position body ∧
      Apart body := by
  induction segments with
  | finish position =>
    have ended : position = text.length :=
      Nat.le_antisymm within (List.drop_eq_nil_iff.1 rest)
    refine ⟨[], by rw [ended]; rfl, ⟨nofun, nofun, .nil, nofun, nofun, fun i c behind stands => ?_⟩,
      .nil⟩
    have inside := (List.getElem?_eq_some_iff.1 stands).1
    omega
  | blank position c cs tokens blank more ih =>
    have stands : text[position]? = some c := by
      rw [← List.head?_drop, rest]
      rfl
    have next : text.drop (position + 1) = cs := by rw [← List.tail_drop, rest]; rfl
    obtain ⟨body, rfl, covers, apart⟩ := ih next (List.getElem?_eq_some_iff.1 stands).1
    exact ⟨body, rfl, covers.skip stands blank, apart⟩
  | token position kind lexeme others tokens shaped ends more ih =>
    have next : text.drop (position + lexeme.length) = others := by
      rw [← List.drop_drop, rest, List.drop_left]
    have long : position + lexeme.length ≤ text.length := by
      have counted := congrArg List.length rest
      rw [List.length_drop, List.length_append] at counted
      omega
    obtain ⟨body, rfl, covers, apart⟩ := ih next long
    let token : Token := ⟨kind, String.ofList lexeme, position⟩
    have stop_eq : token.stop = position + lexeme.length := by simp [token, stop]
    rw [← stop_eq] at covers next
    refine ⟨token :: body, rfl, covers.cons (shaped_iff.2 ?_) ?_ fun c stands => ?_,
      List.pairwise_cons.2 ⟨covers.later, apart⟩⟩
    · simpa [token] using shaped
    · simp [token, rest]
    · refine ends c ?_
      rw [← next, List.head?_drop]
      exact stands

theorem Covers.tail (covers : Covers text token.position (token :: body))
    (apart : Apart (token :: body)) : Covers text token.stop body where
  shaped := (List.forall_mem_cons.1 covers.shaped).2
  later := (List.pairwise_cons.1 apart).1
  increasing := (List.pairwise_cons.1 covers.increasing).2
  slice := (List.forall_mem_cons.1 covers.slice).2
  maximal := (List.forall_mem_cons.1 covers.maximal).2
  blank i c behind stands := by
    have after : token.position ≤ i := Nat.le_trans (Nat.le_add_right _ _) behind
    rcases covers.blank i c after stands with blank | ⟨other, member, begins, ends⟩
    · exact .inl blank
    · rcases List.mem_cons.1 member with rfl | among
      · exact absurd ends (Nat.not_lt.2 behind)
      · exact .inr ⟨other, among, begins, ends⟩

theorem Covers.next (covers : Covers text position body)
    (behind : ∀ token ∈ body, position < token.position) : Covers text (position + 1) body where
  shaped := covers.shaped
  later := behind
  increasing := covers.increasing
  slice := covers.slice
  maximal := covers.maximal
  blank i c after stands := covers.blank i c (Nat.le_of_succ_le after) stands

theorem Covers.drop_eq (covers : Covers text position body) (member : token ∈ body) :
    text.drop token.position = token.lexeme.toList ++ text.drop token.stop := by
  rw [← covers.slice token member, stop, ← List.drop_drop, List.take_append_drop]

theorem Covers.stop_le (covers : Covers text position body) (member : token ∈ body) :
    token.stop ≤ text.length := by
  have long := (covers.shaped token member).length_pos
  have counted := congrArg List.length (covers.slice token member)
  rw [List.length_take, List.length_drop, String.length_toList] at counted
  simp only [stop]
  omega

/-- No token stands at the end of a text. -/
theorem Covers.position_lt (covers : Covers text position body) (member : token ∈ body) :
    token.position < text.length :=
  Nat.lt_of_lt_of_le (Nat.lt_add_of_pos_right (covers.shaped token member).length_pos)
    (covers.stop_le member)

theorem Covers.eq_nil (covers : Covers text text.length body) : body = [] :=
  List.eq_nil_iff_forall_not_mem.2 fun token member =>
    Nat.not_lt.2 (covers.later token member) (covers.position_lt member)

theorem Covers.front (covers : Covers text position body) :
    (∃ token rest, body = token :: rest ∧ token.position = position) ∨
      ∀ token ∈ body, position < token.position := by
  cases body with
  | nil => exact .inr nofun
  | cons token rest =>
    rcases Nat.eq_or_lt_of_le (covers.later token List.mem_cons_self) with here | behind
    · exact .inl ⟨token, rest, rfl, here.symm⟩
    · have increasing := (List.pairwise_cons.1 covers.increasing).1
      exact .inr (List.forall_mem_cons.2
        ⟨behind, fun other among => Nat.lt_trans behind (increasing other among)⟩)

theorem Covers.blank_of_behind {c : Char} (covers : Covers text position body)
    (behind : ∀ token ∈ body, position < token.position) (stands : text[position]? = some c) :
    isBlank c := by
  rcases covers.blank position c (Nat.le_refl _) stands with blank | ⟨token, member, begins, _⟩
  · exact blank
  · exact absurd begins (Nat.not_le.2 (behind token member))

theorem Covers.segments_cons (covers : Covers text token.position (token :: body))
    (more : Segments token.stop (text.drop token.stop) tokens) :
    Segments token.position (text.drop token.position) (token :: tokens) := by
  have ends (c : Char) (head : (text.drop token.stop).head? = some c) :
      extends? token.kind c = false :=
    covers.maximal token List.mem_cons_self c (by rwa [← List.head?_drop])
  have segments := Segments.token token.position token.kind token.lexeme.toList _ _
    (shaped_iff.1 (covers.shaped token List.mem_cons_self)) ends (by rwa [String.length_toList])
  rwa [String.ofList_toList, ← covers.drop_eq List.mem_cons_self] at segments

theorem Segments.skip (inside : position < text.length) (blank : isBlank text[position])
    (more : Segments (position + 1) (text.drop (position + 1)) tokens) :
    Segments position (text.drop position) tokens := by
  rw [List.drop_eq_getElem_cons inside]
  exact .blank _ _ _ _ blank more

/-- What covers a text from an offset on, token after token, are the segments from there on. -/
theorem Covers.segments (covers : Covers text position body) (apart : Apart body)
    (within : position ≤ text.length) :
    Segments position (text.drop position) (body ++ [finish text.length]) := by
  induction left : text.length - position using Nat.strongRecOn generalizing position body with
  | ind length ih =>
    rcases covers.front with ⟨token, rest, rfl, rfl⟩ | behind
    · have long := (covers.shaped token List.mem_cons_self).length_pos
      have inside := covers.stop_le List.mem_cons_self
      have later : text.length - token.stop < length := by
        simp only [stop] at inside ⊢
        omega
      have more := ih _ later (covers.tail apart) (List.pairwise_cons.1 apart).2 inside rfl
      exact covers.segments_cons more
    · rcases Nat.eq_or_lt_of_le within with rfl | inside
      · rw [covers.eq_nil, List.drop_length]
        exact .finish _
      · have blank := covers.blank_of_behind behind (List.getElem?_eq_getElem inside)
        have more := ih _ (by omega) (covers.next behind) apart inside rfl
        exact .skip inside blank more

end Covering

section Failing

variable {kind : TokenKind} {lexeme cs : List Char} {c d : Char} {position : Nat}
  {error : FormulaError}

theorem first_error (visible : isBlank c = false) (failed : first c cs position = .error error) :
    ∃ cause, error = cause.at position ∧ Stuck position cause (c :: cs) := by
  unfold first at failed
  split at failed
  · cases failed
  next noDigit =>
    split at failed
    next upper =>
      dsimp only at failed
      split at failed
      next unnumbered =>
        cases failed
        refine ⟨_, rfl, ?_⟩
        rw [← run_append isAsciiUpper c cs]
        exact .letters _ _ (by simp) (all_run upper) fun d head =>
          ⟨head_dropWhile d head, head_of_takeWhile_nil (List.isEmpty_iff.1 unnumbered) d head⟩
      · cases failed
    next noUpper =>
      split at failed
      next lower =>
        dsimp only at failed
        split at failed
        · cases failed
        next unknown =>
          cases failed
          refine ⟨_, rfl, ?_⟩
          rw [← run_append isAsciiLower c cs]
          refine .word _ _ (by simp) (all_run lower) head_dropWhile fun kind spelled => ?_
          rw [wordKind?_eq_some_iff.2 spelled] at unknown
          cases unknown
      next noLower =>
        split at failed
        · cases failed
        next unknown =>
          cases failed
          refine ⟨_, rfl, .character c cs visible (Bool.eq_false_iff.2 noDigit)
            (Bool.eq_false_iff.2 noUpper) (Bool.eq_false_iff.2 noLower) fun kind spelled => ?_⟩
          rw [operatorKind?_eq_some_iff.2 spelled] at unknown
          cases unknown

theorem parted_of_toNat (outside : (c.toNat < 65 ∨ 90 < c.toNat) ∧ (c.toNat < 97 ∨ 122 < c.toNat)) :
    Parted c d := by
  have noUpper := isAsciiUpper_eq_false outside.1
  have noLower := isAsciiLower_eq_false outside.2
  exact ⟨by simp [noLower], by simp [noUpper]⟩

theorem parted_blank (blank : isBlank c) : Parted c d := by
  by_cases range : 33 ≤ c.toNat ∧ c.toNat ≤ 126
  · rw [isBlank_eq_false range.1 range.2] at blank
    cases blank
  · exact parted_of_toNat (by omega)

theorem parted_digit (digit : isAsciiDigit c) : Parted c d := by
  have range := isAsciiDigit_iff.1 digit
  exact parted_of_toNat (by omega)

/-- No run of letters goes on behind a lexeme that the next character would not extend. -/
theorem Lexeme.parted (shaped : Lexeme kind lexeme) (last : lexeme.getLast? = some c)
    (ends : extends? kind d = false) : Parted c d := by
  cases shaped with
  | number digits nonempty all => exact parted_digit (all c (List.mem_of_getLast? last))
  | cellReference letters digits lettered allLetters numbered allDigits =>
    rw [List.getLast?_append_of_ne_nil _ numbered] at last
    exact parted_digit (allDigits c (List.mem_of_getLast? last))
  | word _ word all known =>
    have stops : isAsciiLower d = false := by
      rcases wordKind_cases known with rfl | rfl <;> exact ends
    have range := isAsciiLower_iff.1 (all c (List.mem_of_getLast? last))
    have noUpper : isAsciiUpper c = false := isAsciiUpper_eq_false (by omega)
    exact ⟨by simp [stops], by simp [noUpper]⟩
  | operator _ e known =>
    obtain rfl : e = c := Option.some.inj last
    have range := range_of_operatorKind known
    exact parted_of_toNat (by omega)

theorem scan_error (failed : scan position cs = .error error) :
    ∃ before c rest cause, cs = before ++ c :: rest ∧ (∃ tokens, Segments position before tokens) ∧
      error = cause.at (position + before.length) ∧
      Stuck (position + before.length) cause (c :: rest) ∧
      ∀ d, before.getLast? = some d → Parted d c := by
  fun_induction scan position cs with
  | case1 => cases failed
  | case2 position c cs blank ih =>
    obtain ⟨before, d, rest, cause, rfl, ⟨tokens, segments⟩, same, stuck, parted⟩ := ih failed
    refine ⟨c :: before, d, rest, cause, rfl, ⟨tokens, .blank position c _ _ blank segments⟩,
      ?_, ?_, fun e last => ?_⟩
    · rw [List.length_cons, Nat.add_comm before.length, ← Nat.add_assoc]
      exact same
    · rw [List.length_cons, Nat.add_comm before.length, ← Nat.add_assoc]
      exact stuck
    · cases before with
      | nil => exact Option.some.inj last ▸ parted_blank blank
      | cons f before => exact parted e (by rwa [List.getLast?_cons_cons] at last)
  | case3 position c cs visible ih =>
    rcases bind_eq_error.1 failed with failed | ⟨token, found, failed⟩
    · obtain ⟨cause, same, stuck⟩ := first_error (Bool.eq_false_iff.2 visible) failed
      exact ⟨[], c, cs, cause, rfl, ⟨_, .finish position⟩, same, stuck, by simp⟩
    · rcases bind_eq_error.1 failed with failed | ⟨others, _, failed⟩
      · obtain ⟨kind, lexeme, whole, shaped, ends, rfl⟩ := first_ok found
        obtain ⟨before, d, rest, cause, more, ⟨tokens, segments⟩, same, stuck, parted⟩ :=
          ih _ failed
        rw [String.length_ofList] at segments same stuck
        have head : (afterFirst c cs).head? = (before ++ d :: rest).head? := by rw [more]
        refine ⟨lexeme ++ before, d, rest, cause, by rw [whole, more, List.append_assoc],
          ⟨_, .token position kind lexeme before tokens shaped (fun e first => ends e ?_) segments⟩,
          ?_, ?_, fun e last => ?_⟩
        · cases before with
          | nil => cases first
          | cons f before => exact head.trans first
        · rw [List.length_append, ← Nat.add_assoc]
          exact same
        · rw [List.length_append, ← Nat.add_assoc]
          exact stuck
        · cases before with
          | nil =>
            rw [List.append_nil] at last
            exact shaped.parted last (ends d head)
          | cons f before =>
            rw [List.getLast?_append_of_ne_nil _ (List.cons_ne_nil f before)] at last
            exact parted e last
      · cases failed

end Failing

section Texts

variable {text : String} {offset : Nat}

theorem tokenize_eq_scan (within : offset ≤ text.length) :
    tokenize text offset = scan offset (text.toList.drop offset) := by
  rw [tokenize, Nat.min_eq_left within]

theorem tokenize_ok_iff_covers (within : offset ≤ text.length) {tokens : List Token} :
    tokenize text offset = .ok tokens ↔ ∃ body, tokens = body ++ [finish text.length] ∧
      Covers text.toList offset body ∧ Apart body := by
  rw [tokenize_eq_scan within, scan_ok_iff, ← String.length_toList]
  rw [← String.length_toList] at within
  constructor
  · exact fun segments => segments.covers rfl within
  · rintro ⟨body, rfl, covers, apart⟩
    exact covers.segments apart within

/-- Where a text fails to be scanned, all before that place can be, and what stands there is a
character or a whole run of letters that begins no lexeme. -/
theorem tokenize_stuck (within : offset ≤ text.length) {error : FormulaError}
    (failed : tokenize text offset = .error error) :
    ∃ p cause, error = cause.at p ∧ offset ≤ p ∧
      (∃ tokens, tokenize (String.ofList (text.toList.take p)) offset = .ok tokens) ∧
      Stuck p cause (text.toList.drop p) ∧
      ∀ c d, offset < p → text.toList[p - 1]? = some c → text.toList[p]? = some d →
        Parted c d := by
  rw [tokenize_eq_scan within] at failed
  obtain ⟨before, c, rest, cause, split, ⟨tokens, segments⟩, same, stuck, parted⟩ :=
    scan_error failed
  have at_place (i : Nat) : (before ++ c :: rest)[i]? = text.toList[offset + i]? := by
    rw [← split, List.getElem?_drop]
  have here : text.toList[offset + before.length]? = some c := by
    rw [← at_place, List.getElem?_append_right (Nat.le_refl _), Nat.sub_self]
    rfl
  have inside := (List.getElem?_eq_some_iff.1 here).1
  refine ⟨offset + before.length, cause, same, Nat.le_add_right _ _, ⟨tokens, ?_⟩, ?_,
    fun d e behind stands found => ?_⟩
  · have cut : (text.toList.take (offset + before.length)).drop offset = before := by
      rw [List.drop_take, split, Nat.add_sub_cancel_left, List.take_left]
    rw [tokenize_eq_scan, String.toList_ofList, cut]
    · exact scan_ok_iff.2 segments
    · rw [String.length_ofList, List.length_take]
      omega
  · rw [← List.drop_drop, split, List.drop_left]
    exact stuck
  · obtain rfl : c = e := Option.some.inj (here.symm.trans found)
    refine parted d ?_
    have last := at_place (before.length - 1)
    rw [List.getElem?_append_left (by omega), ← List.getLast?_eq_getElem?] at last
    rw [last, ← stands, Nat.add_sub_assoc (by omega)]

/-- Scanning a text finds the one list of tokens that cover it and stand apart, with the mark of the
end behind them, and fails only at what begins no lexeme. -/
theorem tokenize_segmentation (within : offset ≤ text.length) :
    (∀ tokens, tokenize text offset = .ok tokens ↔ ∃ body, tokens = body ++ [finish text.length] ∧
      Covers text.toList offset body ∧ Apart body) ∧
    (∀ body others, Covers text.toList offset body → Apart body →
      Covers text.toList offset others → Apart others → body = others) ∧
    ∀ error, tokenize text offset = .error error → ∃ p cause, error = cause.at p ∧ offset ≤ p ∧
      (∃ tokens, tokenize (String.ofList (text.toList.take p)) offset = .ok tokens) ∧
      Stuck p cause (text.toList.drop p) ∧
      ∀ c d, offset < p → text.toList[p - 1]? = some c → text.toList[p]? = some d →
        Parted c d := by
  refine ⟨fun tokens => tokenize_ok_iff_covers within,
    fun body others covers apart also parted => ?_,
    fun error failed => tokenize_stuck within failed⟩
  have first := (tokenize_ok_iff_covers within).2 ⟨body, rfl, covers, apart⟩
  have second := (tokenize_ok_iff_covers within).2 ⟨others, rfl, also, parted⟩
  rw [first] at second
  exact List.append_cancel_right (Except.ok.inj second)

theorem tokenize_segmentation_abutting :
    let body : List Token := [⟨.not, "not", 1⟩, ⟨.cellReference, "A1", 4⟩]
    1 ≤ "9notA1".length ∧ Covers "9notA1".toList 1 body ∧ Apart body := by
  intro body
  have within : 1 ≤ "9notA1".length := by decide
  have lexed : tokenize "9notA1" 1 = .ok (body ++ [finish "9notA1".length]) := by cbv
  obtain ⟨others, same, covers, apart⟩ := ((tokenize_segmentation within).1 _).1 lexed
  obtain rfl : body = others := List.append_cancel_right same
  exact ⟨within, covers, apart⟩

/-- Tokens that cover a text need not stand apart: a number may hold another one. -/
theorem covers_overlapping :
    ¬ ∀ tokens, tokenize "12" 0 = .ok tokens ↔
      ∃ body, tokens = body ++ [finish "12".length] ∧ Covers "12".toList 0 body := by
  intro exact_tokens
  let body : List Token := [⟨.number, "12", 0⟩, ⟨.number, "2", 1⟩]
  have covers : Covers "12".toList 0 body := by
    have long : "12".length = 2 := rfl
    have short : "2".length = 1 := rfl
    refine ⟨List.forall_mem_cons.2 ⟨?_, List.forall_mem_singleton.2 ?_⟩, by simp, by simp [body],
      by simp [body, long, short], by simp [body, stop, long, short], fun i c _ stands => ?_⟩
    · exact .inl ⟨rfl, by decide, List.all_eq_true.1 (by decide)⟩
    · exact .inl ⟨rfl, by decide, List.all_eq_true.1 (by decide)⟩
    · have inside : i < 2 := (List.getElem?_eq_some_iff.1 stands).1
      exact .inr ⟨_, List.mem_cons_self, Nat.zero_le i, inside⟩
  have lexed : tokenize "12" 0 = .ok [⟨.number, "12", 0⟩, finish "12".length] := by cbv
  have overlapping := (exact_tokens _).2 ⟨body, rfl, covers⟩
  rw [lexed] at overlapping
  cases overlapping

end Texts

end FormulaGrid.Token
