import FormulaGrid.Parser.Session
import FormulaGrid.Proofs.Parser.Evaluation

/-! A chain that parsers share is a stack: between steps it holds the origin and what has been
entered by hand and not left, and within an evaluation what is followed on top of that. So it makes
no difference which evaluations came before. -/
namespace FormulaGrid.Session

open FormulaGrid.Parser

/-- What holds of a session after steps that have left `opened` entered. -/
structure Stacked (origin : Option String) (maxDepth : Nat) (accessors : List (Option Accessor))
    (opened : List String) (session : Session) : Prop where
  origin : session.chain.origin = origin
  entered : session.chain.entered = opened
  maxDepth : session.chain.maxDepth = maxDepth
  accessors : session.parsers.map Parser.accessor = accessors

section Steps

variable {origin : Option String} {maxDepth : Nat} {accessors : List (Option Accessor)}
  {opened : List String} {session : Session}

theorem step_evaluate {index : Nat} {parser : Parser} {allowance : Allowance} {text : String}
    (held : session.parsers[index]? = some parser) :
    session.step (.evaluate index allowance text) =
      (.outcome (parser.evaluate session.chain allowance text).outcome,
        ⟨(parser.evaluate session.chain allowance text).chain,
          session.parsers.set index (parser.evaluate session.chain allowance text).parser⟩) := by
  rw [step, held]

theorem step_chain {step : Step}
    (other : ∀ reference, step ≠ .enter reference ∧ step ≠ .exit reference) :
    (session.step step).2.chain = session.chain := by
  cases step with
  | check reference =>
    rw [Session.step]
    split <;> rfl
  | enter reference => exact absurd rfl (other reference).1
  | exit reference => exact absurd rfl (other reference).2
  | evaluate index allowance text =>
    cases held : session.parsers[index]? with
    | none => rw [Session.step, held]
    | some parser =>
      rw [step_evaluate held]
      exact (evaluate_faithful parser session.chain allowance text).chain
  | validate text => rfl

theorem step_refused {step : Step} {cause : Cause}
    (refused : (session.step step).1 = .refused cause) : (session.step step).2 = session := by
  cases step with
  | check reference =>
    rw [Session.step]
    split <;> rfl
  | enter reference =>
    rw [Session.step] at refused ⊢
    cases result : session.chain.enter reference with
    | error cause => rfl
    | ok inner =>
      rw [result] at refused
      cases refused
  | exit reference =>
    rw [Session.step] at refused ⊢
    split at refused <;> cases refused
  | evaluate index allowance text =>
    cases held : session.parsers[index]? with
    | none => rw [Session.step, held]
    | some parser =>
      rw [step_evaluate held] at refused
      cases refused
  | validate text => cases refused

theorem Stacked.step (stacked : Stacked origin maxDepth accessors opened session) (step : Step) :
    Stacked origin maxDepth accessors (stillEntered opened (step, (session.step step).1))
      (session.step step).2 := by
  cases step with
  | check reference =>
    rw [Session.step]
    split <;> exact stacked
  | enter reference =>
    rw [Session.step]
    cases result : session.chain.enter reference with
    | error cause => exact stacked
    | ok inner =>
      obtain ⟨_, depth, origin, longer⟩ := Chain.enter_ok result
      refine ⟨origin.trans stacked.origin, ?_, depth.trans stacked.maxDepth, stacked.accessors⟩
      change inner.entered = opened ++ [reference]
      rw [longer, stacked.entered]
  | exit reference =>
    rw [Session.step]
    split
    · refine ⟨stacked.origin, ?_, stacked.maxDepth, stacked.accessors⟩
      change session.chain.entered.erase reference = opened.erase reference
      rw [stacked.entered]
    · exact stacked
  | evaluate index allowance text =>
    cases held : session.parsers[index]? with
    | none =>
      rw [Session.step, held]
      exact stacked
    | some parser =>
      rw [step_evaluate held]
      have faithful := evaluate_faithful parser session.chain allowance text
      rw [faithful.chain]
      refine ⟨stacked.origin, stacked.entered, stacked.maxDepth, ?_⟩
      obtain ⟨inside, rfl⟩ := List.getElem?_eq_some_iff.1 held
      change (session.parsers.set index _).map Parser.accessor = accessors
      rw [List.map_set, faithful.accessor, ← List.map_set, List.set_getElem_self, stacked.accessors]
  | validate text => exact stacked

theorem Stacked.run (stacked : Stacked origin maxDepth accessors opened session)
    (steps : List Step) :
    Stacked origin maxDepth accessors ((session.run steps).1.foldl stillEntered opened)
      (session.run steps).2 := by
  induction steps generalizing opened session with
  | nil => exact stacked
  | cons step steps ih => exact ih (stacked.step step)

end Steps

theorem stacked_start (origin : Option String) (maxDepth : Nat) (positive : 0 < maxDepth)
    (accessors : List (Option Accessor)) :
    Stacked (origin.filter (· != "")) maxDepth accessors []
      (start (Chain.start origin maxDepth positive) accessors) := by
  refine ⟨rfl, rfl, rfl, ?_⟩
  rw [start, List.map_map]
  exact List.map_id accessors

/-- A chain that parsers share is a stack: it is without repetition and never too long, and holds
the origin and what has been entered by hand and not left. What is refused changes nothing. An
evaluation, however it ends, leaves the chain as it found it, only extends it on the way, reference
by reference, and comes to what it comes to for a parser that evaluates for the first time, within
any chain of the same references and the same greatest length. -/
theorem run_stacked (origin : Option String) (maxDepth : Nat) (positive : 0 < maxDepth)
    (accessors : List (Option Accessor)) (steps : List Step) :
    let ran := (start (Chain.start origin maxDepth positive) accessors).run steps
    let session := ran.2
    session.chain.references =
        (origin.filter (· != "")).toList ++ ran.1.foldl stillEntered [] ∧
      session.chain.references.Nodup ∧ session.chain.references.length ≤ maxDepth ∧
      (∀ step cause, (session.step step).1 = .refused cause → (session.step step).2 = session) ∧
      (∀ step, (∀ reference, step ≠ .enter reference ∧ step ≠ .exit reference) →
        (session.step step).2.chain = session.chain) ∧
      ∀ index accessor allowance text, accessors[index]? = some accessor →
        ∃ parser, session.parsers[index]? = some parser ∧ parser.accessor = accessor ∧
          Moves session.chain (parser.evaluate session.chain allowance text).moments
            session.chain ∧
          (∀ moment ∈ (parser.evaluate session.chain allowance text).moments,
            moment.references.Nodup ∧ moment.references.length ≤ maxDepth ∧
              session.chain.references <+: moment.references) ∧
          ∀ other : Chain, other.references = session.chain.references →
            other.maxDepth = maxDepth →
            (session.step (.evaluate index allowance text)).1 =
              .outcome ((Parser.fresh accessor).evaluate other allowance text).outcome := by
  intro ran session
  have stacked := (stacked_start origin maxDepth positive accessors).run steps
  change Stacked _ _ _ (ran.1.foldl stillEntered []) session at stacked
  refine ⟨?_, session.chain.nodup, ?_, fun step cause => step_refused, fun step => step_chain,
    fun index accessor allowance text given => ?_⟩
  · rw [Chain.references, stacked.origin, stacked.entered]
  · rw [← stacked.maxDepth]
    exact session.chain.length_le
  · rw [← stacked.accessors, List.getElem?_map] at given
    obtain ⟨parser, held, rfl⟩ := Option.map_eq_some_iff.1 given
    have faithful := evaluate_faithful parser session.chain allowance text
    have moves := faithful.moves
    rw [faithful.chain] at moves
    refine ⟨parser, held, rfl, moves, fun moment member => ?_, fun other same depth => ?_⟩
    · obtain ⟨depth, extended⟩ := faithful.moments moment member
      refine ⟨moment.nodup, ?_, extended⟩
      rw [← stacked.maxDepth, ← depth]
      exact moment.length_le
    · have mirrors : Mirrors session.chain other := ⟨same, depth.trans stacked.maxDepth.symm⟩
      rw [step_evaluate held, faithful.outcome, (evaluate_faithful _ other allowance text).outcome,
        evaluateWithin_mirrored mirrors]
      rfl

theorem run_stacked_failed :
    let cells : Accessor := fun name =>
      if name = "B1" then some ⟨"B1", "=A1", .empty⟩ else none
    let ran := (start (Chain.start (some "A1") 2 (by decide)) [some cells]).run
      [.evaluate 0 Allowance.standard "=B1", .enter "C1"]
    ran.1.map Prod.snd =
        [.outcome (.error (.formula ⟨.cycle ["A1", "B1", "A1"], none⟩)), .done] ∧
      ran.2.chain.references = ["A1", "C1"] := by
  intro cells ran
  have stacked := (run_stacked (some "A1") 2 (by decide) [some cells]
    [.evaluate 0 Allowance.standard "=B1", .enter "C1"]).1
  let chain := Chain.start (some "A1") 2 (by decide)
  let parser := Parser.fresh (some cells)
  have faithful := evaluate_faithful parser chain Allowance.standard "=B1"
  have cyclic : Evaluation.evaluateWithin parser.accessor chain Allowance.standard "=B1" =
      .error (.formula ⟨.cycle ["A1", "B1", "A1"], none⟩) := by cbv
  have log : ran.1 = [(.evaluate 0 Allowance.standard "=B1",
      .outcome (.error (.formula ⟨.cycle ["A1", "B1", "A1"], none⟩))), (.enter "C1", .done)] := by
    change [(_, Answer.outcome (parser.evaluate chain Allowance.standard "=B1").outcome),
      (_, (step ⟨(parser.evaluate chain Allowance.standard "=B1").chain, _⟩ (.enter "C1")).1)] = _
    rw [faithful.outcome, faithful.chain, cyclic]
    rfl
  refine ⟨congrArg (List.map Prod.snd) log, stacked.trans ?_⟩
  change (Option.filter (· != "") (some "A1")).toList ++ ran.1.foldl stillEntered [] = _
  rw [log]
  decide

end FormulaGrid.Session
