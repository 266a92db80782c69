import FormulaGrid.Proofs.Context
import FormulaGrid.Proofs.Parser.Work

/-! An evaluation by a parser comes to what the text comes to within the chain, and leaves the chain
as it found it. While a reference is followed the chain is longer, and it is closed again on every
way out. -/
namespace FormulaGrid.Parser

open FormulaGrid.Evaluation FormulaGrid.Failure

section Following

variable {room : Nat} {start : Workspace room} {inner : Chain} {name : String}

theorem keeps_resume {after : Workspace inner.room} (smaller : inner.room < room)
    (entered : start.chain.enter name = .ok inner) (kept : Keeps (start.nested inner) after) :
    Keeps start (start.resume smaller name after) := by
  have closed : after.chain.close name = start.chain := by
    rw [kept.chain]
    exact Chain.close_enter entered
  obtain ⟨more, passed, moves, extend⟩ := kept.moments
  refine ⟨closed, inner :: (more ++ [start.chain]), ?_, ?_, ?_⟩
  · change after.moments ++ [after.chain.close name] = _
    rw [closed, passed]
    simp [Workspace.nested]
  · rw [kept.chain] at moves
    change Moves start.chain _ (after.chain.close name)
    rw [closed]
    exact .around entered moves
  · have longer := extends_enter entered
    refine List.forall_mem_cons.2 ⟨longer, List.forall_mem_append.2 ⟨?_, ?_⟩⟩
    · exact fun moment member => longer.trans (extend moment member)
    · exact List.forall_mem_singleton.2 (Extends.refl start.chain)

theorem holding_performs {token : Token} {outcome : Chain → Outcome}
    {evaluation : (less : Nat) → less < room → Work less Value}
    (nested : ∀ less smaller inner, Performs inner (fun _ _ => True) (outcome inner.chain)
      (evaluation less smaller inner)) :
    Performs start (fun _ after => after.ahead = start.ahead)
      ((start.chain.enter token.lexeme).mapError (fun cause =>
        Fault.formula (cause.at token.position)) >>= fun inner =>
          (outcome inner).mapError Fault.elsewhere)
      (holding token evaluation start) := by
  unfold holding
  split
  next cause refused =>
    rw [refused]
    exact .failed _ start (Keeps.refl start)
  next inner entered =>
    have opened : ((start.chain.enter token.lexeme).mapError fun cause =>
        Fault.formula (cause.at token.position)) = .ok inner := by
      rw [entered]
      rfl
    rw [opened, ok_bind]
    have smaller := Nat.lt_of_lt_of_le (Chain.room_enter entered) start.within
    have performs := nested inner.room smaller (start.nested inner)
    change Performs _ _ (outcome inner) _ at performs
    dsimp only
    generalize evaluation inner.room smaller (start.nested inner) = ran at performs ⊢
    generalize outcome inner = result at performs ⊢
    cases performs with
    | done value after kept =>
      exact .done value _ (keeps_resume smaller entered kept) rfl
    | failed fault after kept =>
      exact .failed fault.elsewhere _ (keeps_resume smaller entered kept)

theorem mapError_spend (allowance : Allowance) (share : Nat) (next : Allowance → Outcome) :
    (allowance.spend share >>= next).mapError Fault.elsewhere =
      allowance.spend share >>= fun left => (next left).mapError Fault.elsewhere := by
  cases spent : allowance.spend share with
  | ok left => rfl
  | error fault =>
    obtain rfl := spend_eq_error spent
    rfl

theorem follow_follows {accessor : Option Accessor}
    {evaluation : (less : Nat) → less < room → Allowance → String → Work less Value}
    (nested : ∀ less smaller allowance text inner, Performs inner (fun _ _ => True)
      (evaluateWithin accessor inner.chain allowance text)
      (evaluation less smaller allowance text inner)) (chain : Chain) :
    Follows chain (referenceValue accessor chain) (follow accessor evaluation) := by
  rintro allowance token start rfl
  unfold referenceValue follow
  refine performs_get ((performs_ofExcept _).bind fun cell after _ unchanged => ?_)
  obtain rfl := unchanged
  split
  · simp only [← mapError_spend]
    refine holding_performs fun less smaller inner => ?_
    refine (performs_ofExcept _).bind fun left after _ unchanged => ?_
    obtain rfl := unchanged
    exact nested less smaller left cell.rawExpression after
  · exact performs_pure _ rfl

theorem evaluateAhead_performs {chain : Chain} {follow : Allowance → Token → Outcome}
    {work : Allowance → Token → Work room Value} (follows : Follows chain follow work)
    (same : start.chain = chain) (allowance : Allowance) :
    Performs start (fun _ _ => True) (evaluateTokens follow allowance start.ahead)
      (evaluateAhead work allowance start) := by
  unfold evaluateTokens evaluateAhead
  refine performs_get ((comparison_reads follows allowance start.ahead start same rfl).bind
    fun reading after _ left => performs_get ?_)
  dsimp only
  rw [left]
  split
  · exact performs_pure reading.value trivial
  · exact performs_throw _

end Following

/-- An evaluation comes to what the text comes to within the chain and keeps the chain. -/
theorem evaluateText_performs (accessor : Option Accessor) {room : Nat} (allowance : Allowance)
    (text : String) (start : Workspace room) :
    Performs start (fun _ _ => True) (evaluateWithin accessor start.chain allowance text)
      (evaluateText accessor room allowance text start) := by
  -- A nested evaluation has less room.
  induction room using Nat.strongRecOn generalizing allowance text with
  | ind room ih =>
    rw [evaluateWithin_eq, evaluateText.eq_def]
    split
    · exact performs_pure Value.empty trivial
    · refine (performs_ofExcept _).bind fun tokens after same _ => ?_
      refine performs_held fun held stays ahead => ?_
      have follows : Follows start.chain (referenceValue accessor start.chain)
          (follow accessor fun less (_ : less < room) => evaluateText accessor less) :=
        follow_follows ih start.chain
      rw [← ahead]
      exact evaluateAhead_performs follows (stays.trans same) allowance

/-- What an evaluation by a parser comes to and leaves, whatever the parser has evaluated before. -/
structure Faithful (parser : Parser) (chain : Chain) (allowance : Allowance) (text : String)
    (evaluated : Evaluated) : Prop where
  outcome : evaluated.outcome = evaluateWithin parser.accessor chain allowance text
  moves : Moves chain evaluated.moments evaluated.chain
  moments : ∀ moment ∈ evaluated.moments, Extends chain moment
  chain : evaluated.chain = chain
  accessor : evaluated.parser.accessor = parser.accessor

theorem evaluate_faithful (parser : Parser) (chain : Chain) (allowance : Allowance)
    (text : String) :
    Faithful parser chain allowance text (parser.evaluate chain allowance text) := by
  have performs :=
    evaluateText_performs parser.accessor allowance text (parser.workspace chain)
  change Performs _ _ (evaluateWithin parser.accessor chain allowance text) _ at performs
  have recorded : ∀ after, Keeps (parser.workspace chain) after →
      Moves chain after.moments after.chain ∧ ∀ moment ∈ after.moments, Extends chain moment := by
    intro after kept
    obtain ⟨more, passed, recorded⟩ := kept.moments
    rw [passed]
    exact recorded
  unfold evaluate
  generalize evaluateText parser.accessor chain.room allowance text (parser.workspace chain) = ran
    at performs ⊢
  generalize result : evaluateWithin parser.accessor chain allowance text = outcome at performs
  cases performs with
  | done value after kept =>
    obtain ⟨moves, extend⟩ := recorded after kept
    exact ⟨result.symm, moves, extend, kept.chain, rfl⟩
  | failed fault after kept =>
    obtain ⟨moves, extend⟩ := recorded after kept
    exact ⟨result.symm, moves, extend, kept.chain, rfl⟩

/-- Whether two chains have the same references open and room for as many. Where the first
reference was given as the origin or entered makes no difference. -/
structure Mirrors (chain other : Chain) : Prop where
  references : other.references = chain.references
  maxDepth : other.maxDepth = chain.maxDepth

section Mirrored

variable {accessor : Option Accessor} {chain other inner next : Chain} {name : String}

theorem Mirrors.looser (mirrors : Mirrors chain other) : Looser chain other where
  references := by rw [mirrors.references]; exact List.Subset.refl _
  room := by rw [Chain.room, Chain.room, mirrors.references, mirrors.maxDepth]

theorem Mirrors.enter (mirrors : Mirrors chain other) (entered : chain.enter name = .ok inner)
    (opened : other.enter name = .ok next) : Mirrors inner next where
  references := by
    rw [Chain.references_enter opened, Chain.references_enter entered, mirrors.references]
  maxDepth := by
    rw [Chain.maxDepth_enter opened, Chain.maxDepth_enter entered, mirrors.maxDepth]

theorem abreast_mirrors : Abreast (fun _ => False) Mirrors Eq :=
  Looser.abreast (fun _ _ mirrors => mirrors.looser)
    (fun _ _ _ _ _ mirrors entered opened => mirrors.enter entered opened) (fun _ gone => gone)
    (.inr fun _ _ mirrors => mirrors.references)
    (.inr fun _ _ mirrors => ⟨mirrors.references, mirrors.maxDepth⟩)
    spend_same

/-- Of a chain only the references that are open and the room for more make a difference. -/
theorem evaluateWithin_mirrored (mirrors : Mirrors chain other) (allowance : Allowance)
    (text : String) :
    evaluateWithin accessor chain allowance text = evaluateWithin accessor other allowance text :=
  (evaluateWithin_abreast abreast_mirrors (matching_refl accessor) mirrors rfl
    fun _ _ => trivial).eq

end Mirrored

end FormulaGrid.Parser
