import FormulaGrid.Proofs.Mention
import FormulaGrid.Proofs.Reference

/-! One text evaluated twice, side by side: among cells that show the same to formulas, and within
chains of open references that let the same through. What is compared is said by a relation of
chains, one of allowances, and the faults with which the first evaluation may be lost; if these fit
together at every reference, whole evaluations come to the same. So only the cells that are
mentioned matter, and a limit to nesting only where it is exceeded. -/
namespace FormulaGrid

/-- Whether two cells show the same to those who refer to them: formulas their text, and all others
their value. -/
def Snapshot.Matches (cell other : Snapshot) : Prop :=
  (cell.isFormula ∧ other.isFormula ∧ cell.rawExpression = other.rawExpression) ∨
    (¬ cell.isFormula ∧ ¬ other.isFormula ∧ cell.cachedValue = other.cachedValue)

theorem Snapshot.matches_refl (cell : Snapshot) : cell.Matches cell := by
  by_cases formula : cell.isFormula
  · exact .inl ⟨formula, formula, rfl⟩
  · exact .inr ⟨formula, formula, rfl⟩

namespace Evaluation

open FormulaGrid.Failure FormulaGrid.Grammar

/-- Which cells two evaluations see: the same under all names that count, which are all that the
formulas under such names mention. -/
structure Matching (counts : String → Prop) (accessor other : Option Accessor) : Prop where
  given : accessor.isSome = other.isSome
  cells : ∀ name, counts name →
    Option.Rel Snapshot.Matches (accessor.bind (· name)) (other.bind (· name))
  closed : ∀ name cell, counts name → accessor.bind (· name) = some cell → cell.isFormula →
    ∀ next ∈ mentions cell.rawExpression, counts next

theorem matching_refl (accessor : Option Accessor) :
    Matching (fun _ => True) accessor accessor where
  given := rfl
  cells name _ := by
    cases accessor.bind (· name) with
    | none => exact .none
    | some cell => exact .some cell.matches_refl
  closed _ _ _ _ _ _ _ := trivial

def placed {α : Type} (token : Token) (result : Except Cause α) : Except Fault α :=
  result.mapError fun cause => .formula (cause.at token.position)

/-- How two evaluations keep abreast at every reference: related chains let the same through and
stay related, unless the first evaluation is lost. -/
structure Abreast (lost : Fault → Prop) (chains : Chain → Chain → Prop)
    (allowances : Allowance → Allowance → Prop) : Prop where
  elsewhere : ∀ fault, lost fault → lost fault.elsewhere
  check : ∀ chain inner token, chains chain inner →
    Alike lost Eq Eq (placed token (chain.check token.lexeme))
      (placed token (inner.check token.lexeme))
  enter : ∀ chain inner token, chains chain inner →
    Alike lost Eq chains (placed token (chain.enter token.lexeme))
      (placed token (inner.enter token.lexeme))
  spend : ∀ a b share, allowances a b → Alike lost Eq allowances (a.spend share) (b.spend share)

section Parallel

variable {lost : Fault → Prop} {chains : Chain → Chain → Prop}
  {allowances : Allowance → Allowance → Prop} {counts : String → Prop}
  {accessor other : Option Accessor} {chain inner : Chain} {a b : Allowance} {text : String}

/-- Two descents over the tokens of one text, of whose references only those that it mentions
count. -/
def sharing (text : String) (spend : ∀ a b share, allowances a b →
    Alike lost Eq allowances (a.spend share) (b.spend share)) : Likeness where
  lost := lost
  faults := Eq
  allowances := allowances
  tokens t u := t = u ∧ (t.kind = .cellReference → t.lexeme ∈ mentions text)
  parts tokens others := tokens = [] ∧ others = []
  kind same := congrArg Token.kind same.1
  lexeme same := congrArg Token.lexeme same.1
  unexpected same := congrArg (fun token => Fault.formula (.unexpected token)) same.1
  expected same kind := congrArg (fun token => Fault.formula (.expected kind token)) same.1
  placed same cause _ := congrArg (fun token => Fault.formula (cause.at token.position)) same.1
  numeric same := congrArg Fault.numeric same
  spend allowed share := spend _ _ share allowed
  parting := by
    rintro tokens others ⟨rfl, rfl⟩
    exact .nothing rfl fun kind => rfl

/-- Two evaluations of one text come to the same if the references that it mentions do. -/
theorem evaluateWithin_sharing
    (spend : ∀ a b share, allowances a b →
      Alike lost Eq allowances (a.spend share) (b.spend share))
    (allowed : allowances a b)
    (follows : ∀ c d token, token.lexeme ∈ mentions text → allowances c d →
      Alike lost Eq Eq (referenceValue accessor chain c token)
        (referenceValue other inner d token)) :
    Alike lost Eq Eq (evaluateWithin accessor chain a text)
      (evaluateWithin other inner b text) := by
  rw [evaluateWithin_eq, evaluateWithin_eq]
  split
  · exact .done _ _ rfl
  cases lexed : Token.tokenize text (Token.bodyStart text) with
  | error error => exact .failed _ _ rfl
  | ok tokens =>
    have same : List.Forall₂ (sharing text spend).tokens tokens tokens :=
      List.forall₂_same.2 fun token member => ⟨rfl, lexeme_mem_mentions lexed member⟩
    simp only [mapError_ok, ok_bind]
    refine evaluateTokens_alike (sharing text spend) (Likeness.lists_of_forall₂ same ⟨rfl, rfl⟩)
      allowed ⟨?_, by rintro _ _ _ _ _ _ _ ⟨⟨⟩, _⟩⟩ (by rintro _ _ _ ⟨⟨⟩, _⟩)
    rintro c d token _ refers allowed ⟨rfl, mentioned⟩
    exact follows c d token (mentioned refers) allowed

theorem findCell_abreast (abreast : Abreast lost chains allowances)
    (matching : Matching counts accessor other) (related : chains chain inner) (token : Token)
    (counted : counts token.lexeme) :
    Alike lost Eq Snapshot.Matches (placed token (findCell accessor chain token.lexeme))
      (placed token (findCell other inner token.lexeme)) := by
  have checked := abreast.check chain inner token related
  have given := matching.given
  have cells := matching.cells token.lexeme counted
  unfold findCell placed at *
  rw [mapError_bind, mapError_bind]
  refine checked.bind fun _ _ _ _ => ?_
  cases accessor with
  | none =>
    cases other with
    | none => exact .failed _ _ rfl
    | some second => cases given
  | some first =>
    cases other with
    | none => cases given
    | some second =>
      simp only [Option.bind_some] at cells ⊢
      generalize first token.lexeme = cell, second token.lexeme = cell' at cells
      cases cells with
      | none => exact .failed _ _ rfl
      | some same => exact .done _ _ same

theorem referenceValue_follows (abreast : Abreast lost chains allowances)
    (matching : Matching counts accessor other) (related : chains chain inner)
    (allowed : allowances a b) (token : Token) (counted : counts token.lexeme)
    (follows : ∀ next next' c d text, chain.enter token.lexeme = .ok next → chains next next' →
      allowances c d → (∀ name ∈ mentions text, counts name) →
      Alike lost Eq Eq (evaluateWithin accessor next c text) (evaluateWithin other next' d text)) :
    Alike lost Eq Eq (referenceValue accessor chain a token)
      (referenceValue other inner b token) := by
  refine (findCell_abreast abreast matching related token counted).bind
    fun cell cell' found same => ?_
  obtain ⟨_, resolved⟩ := findCell_ok_iff.1 (mapError_eq_ok.1 found)
  rcases same with ⟨formula, formula', text⟩ | ⟨plain, plain', value⟩
  · rw [if_pos formula, if_pos formula', ← text]
    refine (abreast.enter chain inner token related).bind fun next next' entered related => ?_
    refine (abreast.spend a b _ allowed).bind fun left left' _ allowed => ?_
    have mentioned := matching.closed token.lexeme cell counted resolved formula
    exact (follows next next' left left' _ (mapError_eq_ok.1 entered) related allowed
      mentioned).mapError abreast.elsewhere fun _ _ same => congrArg Fault.elsewhere same
  · rw [if_neg plain, if_neg plain']
    exact .done _ _ value

/-- Two evaluations that keep abreast at every reference come to the same. -/
theorem evaluateWithin_abreast (abreast : Abreast lost chains allowances)
    (matching : Matching counts accessor other) (related : chains chain inner)
    (allowed : allowances a b) (counted : ∀ name ∈ mentions text, counts name) :
    Alike lost Eq Eq (evaluateWithin accessor chain a text)
      (evaluateWithin other inner b text) := by
  -- Every reference that is followed leaves less room in the first chain.
  induction room : chain.room using Nat.strongRecOn generalizing chain inner a b text with
  | ind room ih =>
    refine evaluateWithin_sharing abreast.spend allowed fun c d token mentioned allowed => ?_
    refine referenceValue_follows abreast matching related allowed token
      (counted token.lexeme mentioned) fun next next' c d text entered => ?_
    have less := Chain.room_enter entered
    exact fun related allowed counted => ih next.room (by omega) related allowed counted rfl

theorem referenceValue_abreast (abreast : Abreast lost chains allowances)
    (matching : Matching counts accessor other) (related : chains chain inner)
    (allowed : allowances a b) (token : Token) (counted : counts token.lexeme) :
    Alike lost Eq Eq (referenceValue accessor chain a token)
      (referenceValue other inner b token) :=
  referenceValue_follows abreast matching related allowed token counted
    fun _ _ _ _ _ _ related allowed counted =>
      evaluateWithin_abreast abreast matching related allowed counted

end Parallel

section Allowances

/-- Whether the second allowance leaves as much as the first one. -/
def Allowance.AtMost : Allowance → Allowance → Prop
  | _, none => True
  | none, some _ => False
  | some least, some most => least ≤ most

theorem atMost_refl (allowance : Allowance) : Allowance.AtMost allowance allowance := by
  cases allowance with
  | none => trivial
  | some left => exact Nat.le_refl left

theorem atMost_trans {a b c : Allowance} (first : Allowance.AtMost a b)
    (second : Allowance.AtMost b c) : Allowance.AtMost a c := by
  cases c with
  | none => trivial
  | some most =>
    cases b with
    | none => exact absurd second id
    | some middle =>
      cases a with
      | none => exact absurd first id
      | some least => exact Nat.le_trans first second

theorem spend_eq_error {allowance : Allowance} {share : Nat} {fault : Fault}
    (failed : allowance.spend share = .error fault) : fault = .nestedTooDeeply := by
  cases allowance with
  | none => cases failed
  | some all =>
    unfold Allowance.spend at failed
    dsimp only at failed
    split at failed <;> cases failed
    rfl

theorem exists_spend {a b left : Allowance} {share least : Nat} (allowed : Allowance.AtMost a b)
    (less : least ≤ share) (spent : a.spend share = .ok left) :
    ∃ rest, b.spend least = .ok rest ∧ Allowance.AtMost left rest := by
  cases b with
  | none => exact ⟨none, rfl, trivial⟩
  | some most =>
    cases a with
    | none => exact absurd allowed id
    | some all =>
      have within : all ≤ most := allowed
      unfold Allowance.spend at spent ⊢
      dsimp only at spent ⊢
      split at spent
      next enough =>
        cases spent
        refine ⟨some (most - least), if_pos (by omega), ?_⟩
        change all - share ≤ most - least
        omega
      next => cases spent

theorem atMost_of_spend {allowance left : Allowance} {share : Nat}
    (spent : allowance.spend share = .ok left) : Allowance.AtMost left allowance := by
  cases allowance with
  | none => trivial
  | some all =>
    unfold Allowance.spend at spent
    dsimp only at spent
    split at spent <;> cases spent
    exact Nat.sub_le all share

theorem atMost_spend_alike {lost : Fault → Prop} {faults : Fault → Fault → Prop}
    (deep : lost .nestedTooDeeply) {a b : Allowance} {share least : Nat}
    (allowed : Allowance.AtMost a b) (less : least ≤ share) :
    Alike lost faults (fun left rest => Allowance.AtMost left a ∧ Allowance.AtMost left rest)
      (a.spend share) (b.spend least) := by
  cases spent : a.spend share with
  | error fault =>
    obtain rfl := spend_eq_error spent
    exact .lost _ deep _
  | ok left =>
    obtain ⟨rest, also, within⟩ := exists_spend allowed less spent
    rw [also]
    exact .done left rest ⟨atMost_of_spend spent, within⟩

end Allowances

section Chains

variable {lost : Fault → Prop} {allowances : Allowance → Allowance → Prop}

theorem abreast_of_spend (elsewhere : ∀ fault, lost fault → lost fault.elsewhere)
    (spend : ∀ a b share, allowances a b →
      Alike lost Eq allowances (a.spend share) (b.spend share)) :
    Abreast lost Eq allowances where
  elsewhere := elsewhere
  check chain inner token same := by
    subst same
    exact Alike.refl fun fault => rfl
  enter chain inner token same := by
    subst same
    exact Alike.refl fun fault => rfl
  spend := spend

theorem spend_same (a b : Allowance) (share : Nat) (same : a = b) :
    Alike lost Eq Eq (a.spend share) (b.spend share) := by
  subst same
  exact Alike.refl fun fault => rfl

theorem abreast_atMost :
    Abreast (fun fault => fault = .nestedTooDeeply) Eq Allowance.AtMost := by
  refine abreast_of_spend (fun fault gone => ?_) fun a b share allowed => ?_
  · rw [gone]
    rfl
  · refine Alike.imp (atMost_spend_alike ?_ allowed (Nat.le_refl share)) fun _ _ within => within.2
    rfl

end Chains

/-- What an evaluation comes to within its allowance it comes to with any greater one. -/
theorem evaluateWithin_atMost {accessor : Option Accessor} {chain : Chain} {a b : Allowance}
    {text : String} (allowed : Allowance.AtMost a b)
    (fits : evaluateWithin accessor chain a text ≠ .error .nestedTooDeeply) :
    evaluateWithin accessor chain a text = evaluateWithin accessor chain b text := by
  have alike : Alike _ Eq Eq (evaluateWithin accessor chain a text)
      (evaluateWithin accessor chain b text) :=
    evaluateWithin_abreast abreast_atMost (matching_refl accessor) rfl allowed fun _ _ => trivial
  rcases alike.eq_or_lost with same | ⟨fault, failed, rfl⟩
  · exact same
  · exact absurd failed fits

theorem evaluateWithin_unlimited {accessor : Option Accessor} {chain : Chain}
    {allowance : Allowance} {text : String}
    (fits : evaluateWithin accessor chain allowance text ≠ .error .nestedTooDeeply) :
    evaluateWithin accessor chain allowance text = evaluateWithin accessor chain none text :=
  evaluateWithin_atMost trivial fits

/-- Only the cells that count matter, and of those only what they show to formulas. -/
theorem evaluateWithin_matching {counts : String → Prop} {accessor other : Option Accessor}
    {text : String} (matching : Matching counts accessor other)
    (counted : ∀ name ∈ mentions text, counts name) (chain : Chain) (allowance : Allowance) :
    evaluateWithin accessor chain allowance text = evaluateWithin other chain allowance text :=
  (evaluateWithin_abreast (abreast_of_spend (fun _ gone => gone) spend_same) matching rfl rfl
    counted).eq

end Evaluation
end FormulaGrid
