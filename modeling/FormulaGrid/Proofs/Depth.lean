import FormulaGrid.Host
import FormulaGrid.Proofs.Provenance

/-! The limit to the length of chains. Among finitely many cells a chain that has room for all
formulas is never found full, as a reference that goes on from all of them is open already. -/
namespace FormulaGrid.Evaluation

open FormulaGrid.Failure FormulaGrid.Grammar

section Formulas

variable {accessor : Option Accessor} {chain inner : Chain} {text name target : String}
  {path : List String} {error : FormulaError}

theorem Leads.formulas (leads : Leads accessor text path target) :
    ∀ name ∈ path, ∃ cell, accessor.bind (· name) = some cell ∧ cell.isFormula := by
  induction leads with
  | nil text => exact nofun
  | step text name target cell path mentioned found formula more ih =>
    exact List.forall_mem_cons.2 ⟨⟨cell, found, formula⟩, ih⟩

theorem accessor_cons (name : String) (cell : Snapshot) (cells : Cells) :
    Cells.accessor ((name, cell) :: cells) =
      fun reference => if name = reference then some cell else cells.accessor reference := by
  funext reference
  unfold Cells.accessor
  rw [List.find?_cons]
  by_cases same : name = reference
  · simp [same]
  · simp [same, beq_eq_false_iff_ne.2 same]

theorem length_le_formulas {cells : Cells} {names : List String} (nodup : names.Nodup)
    (formulas : ∀ name ∈ names, ∃ cell, cells.accessor name = some cell ∧ cell.isFormula) :
    names.length ≤ cells.countP (·.2.isFormula) := by
  have among : names ⊆ (cells.filter (·.2.isFormula)).map (·.1) := by
    intro name member
    obtain ⟨cell, found, formula⟩ := formulas name member
    obtain ⟨entry, first, rfl⟩ := Option.map_eq_some_iff.1 found
    have named := List.find?_some first
    exact List.mem_map.2
      ⟨entry, List.mem_filter.2 ⟨List.mem_of_find?_eq_some first, formula⟩, beq_iff_eq.1 named⟩
  have fewer := nodup.length_le_of_subset among
  rwa [List.length_map, ← List.countP_eq_length_filter] at fewer

theorem Raises.full (raises : Raises accessor inner target error)
    (code : error.cause.code = "depth_exceeded") :
    ∃ name cell, name ∉ inner.references ∧ accessor.bind (· name) = some cell ∧ cell.isFormula ∧
      inner.maxDepth ≤ inner.references.length := by
  cases raises with
  | lexical _ failed =>
    exact absurd ((Token.scan_error_code failed).symm.trans code) (by decide)
  | token tokens token _ lexed member raises =>
    cases raises with
    | unexpected | expected =>
      exact absurd (show "parse_error" = "depth_exceeded" from code) (by decide)
    | own cause own =>
      rcases own with own | own <;> exact absurd (own.symm.trans code) (by decide)
    | unresolved cause refers failed =>
      rcases findCell_error_code failed with other | other <;>
        exact absurd (other.symm.trans code) (by decide)
    | refused cell cause refers found formula failed =>
      obtain ⟨absent, resolved⟩ := findCell_ok_iff.1 found
      refine ⟨token.lexeme, cell, absent, resolved, formula, ?_⟩
      by_contra shorter
      obtain ⟨next, entered⟩ :=
        exists_enter_iff.2 ⟨absent, Nat.sub_pos_of_lt (Nat.lt_of_not_le shorter)⟩
      rw [failed] at entered
      cases entered

theorem exists_raises {allowance : Allowance}
    (failed : evaluateWithin accessor chain allowance text = .error (.formula error)) :
    ∃ path target inner raised, Leads accessor text path target ∧ Entered chain path inner ∧
      Raises accessor inner target raised ∧ raised.cause = error.cause := by
  rcases evaluateWithin_raised failed with
    raises | ⟨path, target, inner, raised, relayed, rfl⟩
  · exact ⟨[], text, chain, error, .nil text, ⟨(List.append_nil _).symm, rfl⟩, raises, rfl⟩
  · exact ⟨path, target, inner, raised, relayed.leads, relayed.entered, relayed.raises, rfl⟩

theorem Entered.nodup (entered : Entered chain path inner) (absent : name ∉ inner.references) :
    (path ++ [name]).Nodup := by
  have distinct : inner.references.Nodup := inner.nodup
  rw [entered.references, List.nodup_append] at distinct
  rw [entered.references, List.mem_append, not_or] at absent
  refine List.nodup_append.2 ⟨distinct.2.1, List.pairwise_singleton _ name, ?_⟩
  rintro other member last single rfl
  exact absent.2 (List.mem_singleton.1 single ▸ member)

theorem references_start (origin : Option String) (maxDepth : Nat) (positive : 0 < maxDepth) :
    (Chain.start origin maxDepth positive).references = (origin.filter (· != "")).toList :=
  List.append_nil _

end Formulas

/-- A chain that has room for all formulas that cells hold, beside the origin, is never exceeded. -/
theorem depth_suffices (cells : Cells) (origin : Option String) (maxDepth : Nat)
    (positive : 0 < maxDepth)
    (enough : cells.countP (·.2.isFormula) + (origin.filter (· != "")).toList.length ≤ maxDepth)
    (allowance : Allowance) (text : String) (fault : Fault)
    (failed : evaluateWithin (some cells.accessor) (Chain.start origin maxDepth positive) allowance
      text = .error fault) : fault.code ≠ "depth_exceeded" := by
  intro code
  cases fault with
  | numeric signal =>
    exact absurd (show "numeric_overflow" = "depth_exceeded" from code) (by decide)
  | nestedTooDeeply =>
    exact absurd (show "nesting_too_deep" = "depth_exceeded" from code) (by decide)
  | formula error =>
    obtain ⟨path, target, inner, raised, leads, entered, raises, same⟩ := exists_raises failed
    obtain ⟨name, cell, absent, found, formula, full⟩ :=
      raises.full ((congrArg Cause.code same).trans code)
    have formulas : (path ++ [name]).length ≤ cells.countP (·.2.isFormula) := by
      refine length_le_formulas (entered.nodup absent) ?_
      exact List.forall_mem_append.2
        ⟨leads.formulas, List.forall_mem_singleton.2 ⟨cell, found, formula⟩⟩
    rw [List.length_append, List.length_singleton] at formulas
    rw [entered.references, references_start, List.length_append, entered.maxDepth] at full
    change maxDepth ≤ _ at full
    omega

theorem depth_suffices_mutual :
    let cells : Cells := [("A1", ⟨"A1", "=B1", .empty⟩), ("B1", ⟨"B1", "=A1", .empty⟩)]
    cells.countP (·.2.isFormula) + 0 ≤ 2 ∧
      ∃ fault, evaluateWithin (some cells.accessor) (Chain.start none 2 (by decide))
          Allowance.standard "A1" = .error fault ∧ fault.code ≠ "depth_exceeded" := by
  intro cells
  have failed : evaluateWithin (some cells.accessor) (Chain.start none 2 (by decide))
      Allowance.standard "A1" = .error (.formula ⟨.cycle ["A1", "B1", "A1"], none⟩) := by
    rw [accessor_cons, accessor_cons]
    cbv
  have enough : cells.countP (·.2.isFormula) + 0 ≤ 2 := by decide
  exact ⟨enough, _, failed, depth_suffices cells none 2 _ enough _ _ _ failed⟩

end FormulaGrid.Evaluation
