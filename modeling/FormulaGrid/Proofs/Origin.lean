import FormulaGrid.Proofs.Dependency

/-! A formula reached through a reference, and the same formula evaluated from its own cell.
Whatever the references on the way are called, a sound formula leads to no cell twice, so a chain
that holds nothing but the cell's own reference is as good as the one that led there. -/
namespace FormulaGrid.Evaluation

open FormulaGrid.Failure FormulaGrid.Grammar

section Routes

variable {accessor : Option Accessor} {chain other inner : Chain} {text name own : String}
  {before after more : List String} {cell : Snapshot}

theorem Route.upTo (route : Route accessor text (before ++ name :: after)) :
    Route accessor text (before ++ [name]) := by
  induction before generalizing text with
  | nil =>
    cases route with
    | last _ _ mentioned => exact .last text name mentioned
    | step _ _ cell _ mentioned found formula more => exact .last text name mentioned
  | cons first others ih =>
    cases whole : others ++ name :: after with
    | nil => simp at whole
    | cons second rest =>
      rw [List.cons_append, whole] at route
      cases route with
      | step _ _ cell _ mentioned found formula more =>
        rw [← whole] at more
        exact .step text first cell _ mentioned found formula (ih more)

theorem Route.onwards (route : Route accessor text (before ++ [name]))
    (found : accessor.bind (· name) = some cell) (formula : cell.isFormula)
    (further : Route accessor cell.rawExpression more) :
    Route accessor text (before ++ name :: more) := by
  induction before generalizing text with
  | nil =>
    cases route with
    | last _ _ mentioned => exact .step text name cell more mentioned found formula further
    | step _ _ _ _ mentioned => exact .step text name cell more mentioned found formula further
  | cons first others ih =>
    cases whole : others ++ [name] with
    | nil => simp at whole
    | cons second rest =>
      rw [List.cons_append, whole] at route
      cases route with
      | step _ _ cell _ mentioned found formula more =>
        rw [← whole] at more
        exact .step text first cell _ mentioned found formula (ih more)

/-- A formula that is sound does not lead back to its own cell: the way there could be gone
twice. -/
theorem Sound.avoids (sound : Sound accessor chain cell.rawExpression)
    (found : accessor.bind (· own) = some cell) (formula : cell.isFormula) {route : List String}
    (routed : Route accessor cell.rawExpression route) : own ∉ route := by
  intro member
  obtain ⟨before, after, rfl⟩ := List.append_of_mem member
  have first := routed.upTo
  have twice := sound.clear _ (first.onwards found formula first)
  have distinct := (List.nodup_append.1 twice.nodup).2.1
  have later := (List.nodup_append.1 distinct).2.1
  exact (List.nodup_cons.1 later).1 (by simp)

/-- What is sound within a chain is sound within one that holds only its cell's own reference. -/
theorem Sound.restart (sound : Sound accessor chain cell.rawExpression)
    (found : accessor.bind (· own) = some cell) (formula : cell.isFormula)
    (nonempty : chain.references ≠ []) (alone : other.references = [own])
    (depth : other.maxDepth = chain.maxDepth) : Sound accessor other cell.rawExpression := by
  refine ⟨sound.valid, fun route routed => ?_⟩
  have clear := sound.clear route routed
  have avoided := sound.avoids found formula routed
  refine ⟨clear.resolved, clear.valid, ?_, ?_⟩
  · rw [alone, List.singleton_append, List.nodup_cons]
    exact ⟨avoided, (List.nodup_append.1 clear.nodup).2.1⟩
  · have room := clear.room
    have length := List.length_pos_iff.2 nonempty
    rw [alone, depth, List.length_singleton]
    omega

end Routes

section Values

variable {accessor : Option Accessor} {chain other : Chain} {a b : Allowance} {text : String}
  {v : Value}

/-- A value that a text has within one chain it has within every chain in which it is sound. -/
theorem value_of_sound (valued : evaluateWithin accessor chain a text = .ok v)
    (sound : Sound accessor other text) (allowed : Allowance.AtMost a b) :
    evaluateWithin accessor other b text = .ok v := by
  induction room : chain.room using Nat.strongRecOn generalizing chain other a b text v with
  | ind room ih =>
    refine value_of_follows allowed (fun c d token w mentioned _ allowed result => ?_) valued
    obtain ⟨absent, cell, resolved, opens⟩ := sound.followed mentioned
    obtain ⟨_, same, found, followed⟩ := referenceValue_ok_iff.1 result
    obtain rfl := Option.some.inj (found.symm.trans resolved)
    refine referenceValue_ok_iff.2 ⟨absent, same, found, ?_⟩
    split at followed
    next formula =>
      obtain ⟨inner, left, entered, spent, evaluated⟩ := followed
      obtain ⟨next, opened, inside⟩ := opens formula
      have less := Chain.room_enter entered
      obtain ⟨rest, also, within⟩ := exists_spend allowed (Nat.le_refl _) spent
      rw [if_pos formula]
      exact ⟨next, rest, opened, also, ih inner.room (by omega) evaluated inside within rfl⟩
    next plain =>
      rw [if_neg plain]
      exact followed

end Values

end FormulaGrid.Evaluation
