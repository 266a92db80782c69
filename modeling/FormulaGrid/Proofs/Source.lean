import FormulaGrid.Proofs.Parallel

/-! What an evaluation sees of the cells. A cell whose text is a formula is computed anew wherever
it is mentioned, so the value that it shows is never read. -/
namespace FormulaGrid

/-- The cell without the value that it shows, if its text is a formula. -/
def Snapshot.source (cell : Snapshot) : Snapshot :=
  if cell.isFormula then { cell with cachedValue := .empty } else cell

def Accessor.sources (resolve : Accessor) : Accessor := fun reference =>
  (resolve reference).map Snapshot.source

section Sources

variable {cell : Snapshot}

theorem Snapshot.source_rawExpression : cell.source.rawExpression = cell.rawExpression := by
  unfold Snapshot.source
  split <;> rfl

theorem Snapshot.isFormula_source : cell.source.isFormula = cell.isFormula := by
  rw [Snapshot.isFormula, Snapshot.source_rawExpression, Snapshot.isFormula]

theorem Snapshot.source_cachedValue (plain : cell.isFormula = false) :
    cell.source.cachedValue = cell.cachedValue := by
  rw [Snapshot.source, plain]
  rfl

theorem Snapshot.matches_source (cell : Snapshot) : cell.source.Matches cell := by
  cases formula : cell.isFormula with
  | true => exact .inl ⟨isFormula_source.trans formula, formula, source_rawExpression⟩
  | false =>
    refine .inr ⟨?_, ?_, source_cachedValue formula⟩
    · rw [isFormula_source, formula]
      decide
    · rw [formula]
      decide

end Sources

namespace Evaluation

theorem matching_sources (resolve : Accessor) :
    Matching (fun _ => True) (some resolve.sources) (some resolve) where
  given := rfl
  cells name _ := by
    change Option.Rel _ ((resolve name).map Snapshot.source) (resolve name)
    cases resolve name with
    | none => exact .none
    | some cell => exact .some cell.matches_source
  closed _ _ _ _ _ _ _ := trivial

theorem evaluateWithin_sources (resolve : Accessor) (chain : Chain) (allowance : Allowance)
    (text : String) :
    evaluateWithin (some resolve.sources) chain allowance text =
      evaluateWithin (some resolve) chain allowance text :=
  evaluateWithin_matching (matching_sources resolve) (fun _ _ => trivial) chain allowance

end Evaluation
end FormulaGrid
