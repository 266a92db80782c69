import FormulaGrid.Proofs.Dependency
import FormulaGrid.Proofs.Descent.Faults

/-! What the references of a reported cycle are: those that were open before, and a route from the
text that leads back to one of them or to itself. -/
namespace FormulaGrid.Evaluation

open FormulaGrid.Failure FormulaGrid.Grammar

/-- A route from a text, without a repetition up to its last reference, which is open or on the
route already. -/
structure Returns (accessor : Option Accessor) (chain : Chain) (text : String)
    (path : List String) (last : String) : Prop where
  nodup : (chain.references ++ path).Nodup
  again : last ∈ chain.references ++ path
  route : Route accessor text (path ++ [last])

/-- Whether a fault is a cycle only where its references come from such a route. -/
def Traced (accessor : Option Accessor) (chain : Chain) (text : String) (fault : Fault) : Prop :=
  ∀ opened position, fault = .formula ⟨.cycle opened, position⟩ →
    ∃ path last, opened = chain.references ++ path ++ [last] ∧
      Returns accessor chain text path last

section Tracing

variable {accessor : Option Accessor} {chain inner : Chain} {allowance : Allowance}
  {text name : String} {cell : Snapshot}

theorem traced_of_code (code : String) {fault : Fault} (coded : fault.code = code)
    (other : code ≠ "cyclic_reference") : Traced accessor chain text fault := by
  rintro opened position rfl
  exact absurd coded.symm other

theorem returns_at_once (mentioned : name ∈ mentions text) (present : name ∈ chain.references) :
    Returns accessor chain text [] name where
  nodup := by
    rw [List.append_nil]
    exact chain.nodup
  again := by
    rw [List.append_nil]
    exact present
  route := .last text name mentioned

/-- A route that returns from within a formula returns from where the formula is mentioned. -/
theorem Returns.step {path : List String} {last : String} (mentioned : name ∈ mentions text)
    (found : accessor.bind (· name) = some cell) (formula : cell.isFormula)
    (entered : chain.enter name = .ok inner)
    (returns : Returns accessor inner cell.rawExpression path last) :
    Returns accessor chain text (name :: path) last := by
  have extended : inner.references ++ path = chain.references ++ name :: path := by
    rw [Chain.references_enter entered, List.append_assoc, List.singleton_append]
  refine ⟨?_, ?_, ?_⟩
  · rw [← extended]
    exact returns.nodup
  · rw [← extended]
    exact returns.again
  · exact .step text name cell _ mentioned found formula returns.route

theorem traced_step {fault : Fault} (mentioned : name ∈ mentions text)
    (found : accessor.bind (· name) = some cell) (formula : cell.isFormula)
    (entered : chain.enter name = .ok inner)
    (traced : Traced accessor inner cell.rawExpression fault) :
    Traced accessor chain text fault.elsewhere := by
  intro opened position same
  obtain ⟨original, rfl⟩ : ∃ original, fault = .formula ⟨.cycle opened, original⟩ := by
    cases fault with
    | formula error =>
      obtain ⟨cause, original⟩ := error
      cases same
      exact ⟨original, rfl⟩
    | numeric signal => cases same
    | nestedTooDeeply => cases same
  obtain ⟨path, last, rfl, returns⟩ := traced opened original rfl
  refine ⟨name :: path, last, ?_, returns.step mentioned found formula entered⟩
  rw [Chain.references_enter entered]
  simp only [List.append_assoc, List.nil_append, List.cons_append]

theorem cycle_of_findCell {opened : List String}
    (failed : findCell accessor chain name = .error (.cycle opened)) :
    name ∈ chain.references ∧ opened = chain.references ++ [name] := by
  unfold findCell Chain.check at failed
  split at failed
  next present =>
    cases failed
    exact ⟨present, rfl⟩
  next =>
    rw [ok_bind] at failed
    split at failed
    · cases failed
    · split at failed <;> cases failed

theorem referenceValue_traced {token : Token} {fault : Fault}
    (mentioned : token.lexeme ∈ mentions text)
    (inside : ∀ left inner (cell : Snapshot) reason, chain.enter token.lexeme = .ok inner →
      evaluateWithin accessor inner left cell.rawExpression = .error reason →
      Traced accessor inner cell.rawExpression reason)
    (failed : referenceValue accessor chain allowance token = .error fault) :
    Traced accessor chain text fault := by
  cases found : findCell accessor chain token.lexeme with
  | error cause =>
    rw [referenceValue, found] at failed
    cases failed
    intro opened position same
    cases same
    obtain ⟨present, rfl⟩ := cycle_of_findCell found
    refine ⟨[], token.lexeme, ?_, returns_at_once mentioned present⟩
    rw [List.append_nil]
  | ok cell =>
    obtain ⟨absent, resolved⟩ := findCell_ok_iff.1 found
    rw [referenceValue, found, mapError_ok, ok_bind] at failed
    split at failed
    next formula =>
      cases entered : chain.enter token.lexeme with
      | error cause =>
        rw [entered] at failed
        cases failed
        intro opened position same
        cases same
        -- Only a reference that is open already closes a cycle as it is entered.
        rw [Chain.enter, dif_neg absent] at entered
        split at entered <;> cases entered
      | ok inner =>
        rw [entered, mapError_ok, ok_bind] at failed
        rcases bind_eq_error.1 failed with short | ⟨left, spent, failed⟩
        · exact traced_of_code _ (congrArg Fault.code (spend_eq_error short)) (by decide)
        · obtain ⟨reason, evaluated, rfl⟩ := mapError_eq_error.1 failed
          exact traced_step mentioned resolved formula entered
            (inside left inner cell reason entered evaluated)
    next => cases failed

theorem admits_traced (accessor : Option Accessor) (chain : Chain) (text : String) :
    Admits (fun token => token.kind = .cellReference → token.lexeme ∈ mentions text)
      (Traced accessor chain text) where
  unexpected member := traced_of_code "parse_error" rfl (by decide)
  expected member kind := traced_of_code "parse_error" rfl (by decide)
  placed member cause own := by
    rcases own with code | code <;> exact traced_of_code _ code (by decide)
  numeric signal := traced_of_code "numeric_overflow" rfl (by decide)
  deep := traced_of_code "nesting_too_deep" rfl (by decide)

end Tracing

/-- A reported cycle is one: it lists the references that were open before the evaluation and then
those of a route from the text, each mentioned by the formula of the one before it. The route has
no repetition but its last reference, which has come before. -/
theorem cycle_traced {accessor : Option Accessor} {chain : Chain} {allowance : Allowance}
    {text : String} {opened : List String} {position : Option Nat}
    (failed : evaluateWithin accessor chain allowance text =
      .error (.formula ⟨.cycle opened, position⟩)) :
    ∃ path last, opened = chain.references ++ path ++ [last] ∧
      (chain.references ++ path).Nodup ∧ last ∈ chain.references ++ path ∧
      Route accessor text (path ++ [last]) := by
  suffices every : ∀ (room : Nat) (chain : Chain) (allowance : Allowance) (text : String)
      (fault : Fault), chain.room = room →
      evaluateWithin accessor chain allowance text = .error fault →
      Traced accessor chain text fault by
    obtain ⟨path, last, same, returns⟩ := every _ chain allowance text _ rfl failed _ _ rfl
    exact ⟨path, last, same, returns.nodup, returns.again, returns.route⟩
  -- Every reference that is entered leaves less room in the chain.
  intro room
  induction room using Nat.strongRecOn with
  | ind room ih =>
    rintro chain allowance text fault rfl failed
    refine (admits_traced accessor chain text).evaluateWithin (fun error lexed => ?_)
      (fun tokens lexed token => lexeme_mem_mentions lexed)
      (fun allowance token fault mentioned refers failed => ?_) failed
    · exact traced_of_code "lex_error" (Token.scan_error_code lexed) (by decide)
    · refine referenceValue_traced (mentioned refers) (fun left inner cell reason entered => ?_)
        failed
      exact ih inner.room (Chain.room_enter entered) inner left cell.rawExpression reason rfl

theorem cycle_traced_mutual :
    let cells : Accessor := fun name =>
      if name = "A1" then some ⟨"A1", "=B1", .empty⟩
      else if name = "B1" then some ⟨"B1", "=A1", .empty⟩
      else none
    ∃ path last, ["A1", "B1", "A1"] =
        (Chain.start none 8 (by decide)).references ++ path ++ [last] ∧
      ((Chain.start none 8 (by decide)).references ++ path).Nodup ∧
      last ∈ (Chain.start none 8 (by decide)).references ++ path ∧
      Route (some cells) "A1" (path ++ [last]) := by
  intro cells
  have evaluated : evaluateWithin (some cells) (Chain.start none 8 (by decide))
      Allowance.standard "A1" = .error (.formula ⟨.cycle ["A1", "B1", "A1"], none⟩) := by cbv
  exact cycle_traced evaluated

end FormulaGrid.Evaluation
