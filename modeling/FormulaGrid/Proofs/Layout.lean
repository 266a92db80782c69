import FormulaGrid.Proofs.Agreement
import FormulaGrid.Proofs.Pushdown.Relocation
import FormulaGrid.Proofs.Splice

/-! Two texts that are written differently but have the same tokens, up to where these stand. They
have the same value, they pass the same checks and they mention the same cells. A fault of one text
is a fault of the other one, at the token with the same number; faults without a place in the text
itself, such as those from the formula of another cell, are without one in both. -/
namespace FormulaGrid

open FormulaGrid.Failure

/-- Whether faults of two texts have the same code and lie at tokens with the same number, or both
nowhere. -/
structure Corresponding (tokens others : List Token) (fault other : Fault) : Prop where
  code : fault.code = other.code
  places : (fault.position = 0 ∧ other.position = 0) ∨
    ∃ (i : Nat) (t u : Token), tokens[i]? = some t ∧ others[i]? = some u ∧
      fault.position = t.position ∧ other.position = u.position

/-- Whether two texts come to the same result or to faults that correspond. -/
def Agree {α : Type} (tokens others : List Token) : Except Fault α → Except Fault α → Prop
  | .ok a, .ok b => a = b
  | .error fault, .error other => Corresponding tokens others fault other
  | _, _ => False

section Faults

variable {tokens others : List Token} {fault other : Fault} {t u : Token} {i : Nat}

theorem corresponding_nowhere (same : fault = other) (nowhere : fault.position = 0) :
    Corresponding tokens others fault other :=
  ⟨congrArg Fault.code same, .inl ⟨nowhere, same ▸ nowhere⟩⟩

theorem corresponding_at {cause cause' : Cause} (same : cause.code = cause'.code)
    (first : tokens[i]? = some t) (second : others[i]? = some u) :
    Corresponding tokens others (.formula (cause.at t.position))
      (.formula (cause'.at u.position)) :=
  ⟨same, .inr ⟨i, t, u, first, second, rfl, rfl⟩⟩

theorem position_elsewhere (fault : Fault) : fault.elsewhere.position = 0 := by
  cases fault <;> rfl

end Faults

section Numbers

variable {tokens others : List Token}

/-- Where the tokens stand, by their number from one on. -/
def place (tokens : List Token) : Nat → Nat
  | 0 => 0
  | i + 1 => (tokens[i]?.map Token.position).getD 0

/-- Tokens with their numbers in place of their offsets. -/
def numbered (tokens : List Token) : List Token :=
  tokens.mapIdx fun i token => { token with position := i + 1 }

theorem map_place_numbered (tokens : List Token) :
    (numbered tokens).map (Token.relocate (place tokens)) = tokens := by
  refine List.ext_getElem (by simp [numbered]) fun i inside also => ?_
  have placed : place tokens (i + 1) = tokens[i].position := by
    simp [place, List.getElem?_eq_getElem also]
  simp only [numbered, List.getElem_map, List.getElem_mapIdx, Token.relocate, placed]

theorem numbered_similar (similar : List.Forall₂ Token.Similar tokens others) :
    numbered tokens = numbered others := by
  refine List.ext_getElem (by simp [numbered, similar.length_eq]) fun i inside also => ?_
  simp only [numbered, List.length_mapIdx] at inside also
  obtain ⟨kind, lexeme⟩ := similar.get inside also
  simp only [List.get_eq_getElem] at kind lexeme
  simp only [numbered, List.getElem_mapIdx, kind, lexeme]

theorem corresponding_relocated (similar : List.Forall₂ Token.Similar tokens others)
    (error : FormulaError) :
    Corresponding tokens others (.formula (error.relocate (place tokens)))
      (.formula (error.relocate (place others))) := by
  refine ⟨?_, ?_⟩
  · exact (error.cause.relocate_code _).trans (error.cause.relocate_code _).symm
  have moved (tokens : List Token) :
      (Fault.formula (error.relocate (place tokens))).position =
        place tokens (error.position.getD 0) := by
    obtain ⟨cause, position⟩ := error
    cases position <;> rfl
  rw [moved, moved]
  cases error.position.getD 0 with
  | zero => exact .inl ⟨rfl, rfl⟩
  | succ i =>
    have length := similar.length_eq
    by_cases inside : i < tokens.length
    · have first := List.getElem?_eq_getElem inside
      have second := List.getElem?_eq_getElem (length ▸ inside)
      exact .inr ⟨i, _, _, first, second, by simp [place, first], by simp [place, second]⟩
    · have first := List.getElem?_eq_none (Nat.le_of_not_lt inside)
      have second := List.getElem?_eq_none (length ▸ Nat.le_of_not_lt inside)
      exact .inl ⟨by simp [place, first], by simp [place, second]⟩

end Numbers

namespace Formula

section Check

variable {text other : String} {tokens others : List Token} {β : Type}

/-- What a check shows of its tree, if it shows no offsets, is the same for texts that have the same
tokens. -/
theorem ofText_agree
    (blank : text.length ≤ Token.bodyStart text ↔ other.length ≤ Token.bodyStart other)
    (lexed : Token.tokenize text (Token.bodyStart text) = .ok tokens)
    (also : Token.tokenize other (Token.bodyStart other) = .ok others)
    (similar : List.Forall₂ Token.Similar tokens others) {seen : Option Formula → β}
    (unplaced : ∀ move (formula : Formula), seen (some (formula.relocate move)) =
      seen (some formula)) :
    Agree tokens others (((ofText? text).map seen).mapError .formula)
      (((ofText? other).map seen).mapError .formula) := by
  have checks (tokens : List Token) : ofTokens tokens >>= checked =
      relocated (place tokens) (relocate (place tokens)) (ofTokens (numbered tokens) >>= checked) :=
    (congrArg (fun tokens => ofTokens tokens >>= checked) (map_place_numbered tokens)).symm.trans
      (check_relocate rfl (numbered tokens))
  have staged {text : String} {tokens : List Token} (visible : ¬ text.length ≤ Token.bodyStart text)
      (lexed : Token.tokenize text (Token.bodyStart text) = .ok tokens) :
      ofText? text = (ofTokens tokens >>= checked).map some := by
    rw [ofText?, if_neg visible, lexed, ok_bind]
    cases ofTokens tokens with
    | error error => rfl
    | ok formula => cases formula.checked <;> rfl
  by_cases nothing : text.length ≤ Token.bodyStart text
  · rw [ofText?, if_pos nothing, ofText?, if_pos (blank.1 nothing)]
    rfl
  · rw [staged nothing lexed, staged (mt blank.2 nothing) also, checks tokens, checks others,
      numbered_similar similar]
    cases ofTokens (numbered others) >>= checked with
    | error error => exact corresponding_relocated similar error
    | ok formula => exact (unplaced _ formula).trans (unplaced _ formula).symm

theorem validate_eq (text : String) :
    validate text =
      ((ofText? text).map fun tree => tree.elim .empty fun _ => .boolean true).mapError
        .formula := by
  rw [validate]
  cases ofText? text with
  | error error => rfl
  | ok tree => cases tree <;> rfl

end Check

end Formula

namespace Evaluation

section Descents

variable {text other : String} {tokens others : List Token}

/-- Two descents over tokens that differ in where they stand. -/
def levelled (tokens others : List Token) : Likeness where
  lost _ := False
  faults := Corresponding tokens others
  allowances := Eq
  tokens t u := t.Similar u ∧ ∃ i : Nat, tokens[i]? = some t ∧ others[i]? = some u
  parts rest more := rest = [] ∧ more = []
  kind same := same.1.1
  lexeme same := same.1.2
  unexpected := fun ⟨_, _, first, second⟩ => corresponding_at rfl first second
  expected := fun ⟨_, _, first, second⟩ _ => corresponding_at rfl first second
  placed := fun ⟨_, _, first, second⟩ _ _ => corresponding_at rfl first second
  numeric same := corresponding_nowhere (congrArg Fault.numeric same) rfl
  spend := by
    rintro allowance _ rfl share
    cases spent : allowance.spend share with
    | ok left => exact .done left left rfl
    | error fault =>
      refine .failed _ _ (corresponding_nowhere rfl ?_)
      unfold Allowance.spend at spent
      split at spent
      · cases spent
      · split at spent <;> cases spent
        rfl
  parting := by
    rintro rest more ⟨rfl, rfl⟩
    exact .nothing (corresponding_nowhere rfl rfl) fun kind => corresponding_nowhere rfl rfl

theorem levelled_lists (similar : List.Forall₂ Token.Similar tokens others) :
    (levelled tokens others).Lists tokens others := by
  refine Likeness.lists_of_forall₂ (List.forall₂_iff_get.2 ⟨similar.length_eq, ?_⟩) ⟨rfl, rfl⟩
  intro i inside also
  exact ⟨similar.get inside also, i, List.getElem?_eq_getElem inside, List.getElem?_eq_getElem also⟩

theorem levelled_follows (tokens others : List Token) (accessor : Option Accessor) (chain : Chain) :
    (levelled tokens others).Follows (referenceValue accessor chain)
      (referenceValue accessor chain) where
  reference allowance _ t u refers allowed same := by
    subst allowed
    obtain ⟨⟨kind, lexeme⟩, i, first, second⟩ := same
    have placed {α : Type} (result : Except Cause α) :
        Alike (fun _ => False) (Corresponding tokens others) Eq
          (result.mapError fun cause => Fault.formula (cause.at t.position))
          (result.mapError fun cause => Fault.formula (cause.at u.position)) := by
      cases result with
      | error cause => exact .failed _ _ (corresponding_at rfl first second)
      | ok a => exact .done a a rfl
    unfold referenceValue
    rw [← lexeme]
    refine (placed _).bind fun cell _ _ same => ?_
    subst same
    split
    · refine (placed _).bind fun inner _ _ same => ?_
      subst same
      refine ((levelled tokens others).spend rfl _).bind fun left _ _ same => ?_
      obtain rfl : left = _ := same
      cases evaluateWithin accessor inner left cell.rawExpression with
      | error fault =>
        exact .failed _ _ (corresponding_nowhere rfl (position_elsewhere fault))
      | ok v => exact .done v v rfl
    · exact .done _ _ rfl
  brackets := by rintro _ _ _ _ _ _ _ ⟨⟨⟩, _⟩

end Descents

theorem agree_of_alike {α : Type} {tokens others : List Token} {first second : Except Fault α}
    (alike : Alike (fun _ => False) (Corresponding tokens others) Eq first second) :
    Agree tokens others first second := by
  cases alike with
  | lost fault gone => exact gone.elim
  | failed fault fault' same => exact same
  | done a b same => exact same

/-- Layout does not matter: texts with the same tokens have equal values or corresponding faults,
they are valid alike, and they mention the same cells. -/
theorem evaluateWithin_layout (text other : String) (tokens others : List Token)
    (lexed : Token.tokenize text (Token.bodyStart text) = .ok tokens)
    (also : Token.tokenize other (Token.bodyStart other) = .ok others)
    (similar : List.Forall₂ Token.Similar tokens others) :
    (∀ accessor chain allowance, Agree tokens others
      (evaluateWithin accessor chain allowance text)
      (evaluateWithin accessor chain allowance other)) ∧
    Agree tokens others (Formula.validate text) (Formula.validate other) ∧
    Agree tokens others ((Formula.referencesOf text).mapError .formula)
      ((Formula.referencesOf other).mapError .formula) := by
  have blank : text.length ≤ Token.bodyStart text ↔ other.length ≤ Token.bodyStart other := by
    rw [Token.blank_iff lexed, Token.blank_iff also, similar.length_eq]
  refine ⟨fun accessor chain allowance => ?_, ?_, ?_⟩
  · by_cases nothing : text.length ≤ Token.bodyStart text
    · rw [evaluateWithin_blank accessor chain allowance nothing,
        evaluateWithin_blank accessor chain allowance (blank.1 nothing)]
      rfl
    · rw [evaluateWithin_lexed accessor chain allowance (Nat.lt_of_not_le nothing) lexed,
        evaluateWithin_lexed accessor chain allowance (Nat.lt_of_not_le (mt blank.2 nothing)) also]
      exact agree_of_alike (evaluateTokens_alike (levelled tokens others) (levelled_lists similar)
        rfl (levelled_follows tokens others accessor chain) (by rintro _ _ _ ⟨⟨⟩, _⟩))
  · rw [Formula.validate_eq, Formula.validate_eq]
    exact Formula.ofText_agree blank lexed also similar fun move formula => rfl
  · rw [Formula.referencesOf_eq, Formula.referencesOf_eq]
    exact Formula.ofText_agree blank lexed also similar fun move formula =>
      congrArg List.eraseDups formula.references_relocate

theorem evaluateWithin_layout_shifted :
    let tokens : List Token := [⟨.number, "1", 1⟩, ⟨.divide, "/", 2⟩, ⟨.number, "0", 3⟩,
      ⟨.endOfInput, "", 4⟩]
    let others : List Token := [⟨.number, "1", 0⟩, ⟨.divide, "/", 3⟩, ⟨.number, "0", 5⟩,
      ⟨.endOfInput, "", 6⟩]
    let chain := Chain.start none 64 (by decide)
    Token.tokenize "=1/0" (Token.bodyStart "=1/0") = .ok tokens ∧
      Token.tokenize "1  / 0" (Token.bodyStart "1  / 0") = .ok others ∧
      Agree tokens others (evaluate none chain "=1/0") (evaluate none chain "1  / 0") := by
  intro tokens others chain
  have lexed : Token.tokenize "=1/0" (Token.bodyStart "=1/0") = .ok tokens := by cbv
  have also : Token.tokenize "1  / 0" (Token.bodyStart "1  / 0") = .ok others := by cbv
  have similar : List.Forall₂ Token.Similar tokens others :=
    .cons ⟨rfl, rfl⟩ (.cons ⟨rfl, rfl⟩ (.cons ⟨rfl, rfl⟩ (.cons ⟨rfl, rfl⟩ .nil)))
  exact ⟨lexed, also,
    (evaluateWithin_layout _ _ _ _ lexed also similar).1 none chain Allowance.standard⟩

end Evaluation
end FormulaGrid
