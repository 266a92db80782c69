import FormulaGrid.Proofs.Sheet.Tidy

/-! The sheets that operations lead to, from a new one or from a document. All of them are tidy. -/
namespace FormulaGrid.Sheet

open FormulaGrid.Failure

inductive Operation where
  | update (reference expression : String)
  | recalculate
  | clear
  | addRow
  | addColumn
  | removeRow (index : Int)
  | removeColumn (index : Int)

/-- The sheet that an operation leaves, whether it fails or not. -/
def after (sheet : Sheet) : Operation → Sheet
  | .update reference expression => (sheet.update reference expression).sheet
  | .recalculate => sheet.recalculate.sheet
  | .clear => sheet.clear
  | .addRow => sheet.addRow
  | .addColumn => sheet.addColumn
  | .removeRow index => (sheet.removeRow index).sheet
  | .removeColumn index => (sheet.removeColumn index).sheet

inductive Reachable : Sheet → Prop
  | made (name : String) (maxDepth rows columns : Int) (sheet : Sheet)
      (made : make name maxDepth rows columns = .ok sheet) : Reachable sheet
  | loaded (content : Data) (maxDepth : Int) (sheet : Sheet)
      (loaded : (ofData content maxDepth).result = .ok sheet) : Reachable sheet
  | after (sheet : Sheet) (operation : Operation) (reachable : Reachable sheet) :
      Reachable (sheet.after operation)

variable {sheet : Sheet}

theorem tidy_of_make {name : String} {maxDepth rows columns : Int}
    (made : make name maxDepth rows columns = .ok sheet) : sheet.Tidy := by
  unfold make at made
  split at made <;> cases made
  exact tidy_blank (by omega) (by omega)

theorem Tidy.recalculate (tidy : sheet.Tidy) : sheet.recalculate.sheet.Tidy := by
  rw [recalculate_sheet]
  exact tidy.recomputeAt

theorem Tidy.removeRow {index : Int} (tidy : sheet.Tidy) : (sheet.removeRow index).sheet.Tidy := by
  rcases removeRow_cases sheet index with ⟨_, same, _⟩ | ⟨⟨others, inside⟩, same⟩
  · rw [same]
    exact tidy
  · rw [same, recalculateOnly_sheet]
    exact (tidy.dropRow others inside).recalculate

theorem Tidy.removeColumn {index : Int} (tidy : sheet.Tidy) :
    (sheet.removeColumn index).sheet.Tidy := by
  rcases removeColumn_cases sheet index with ⟨_, same, _⟩ | ⟨⟨others, inside⟩, same⟩
  · rw [same]
    exact tidy
  · rw [same, recalculateOnly_sheet]
    exact (tidy.dropColumn others inside).recalculate

theorem Tidy.storeAll {cells : Data.Entries} {stored : Sheet} (tidy : sheet.Tidy)
    (kept : cells.foldlM (fun sheet (reference, content) => sheet.store reference content) sheet =
      .ok stored) : stored.Tidy := by
  induction cells generalizing sheet with
  | nil =>
    cases kept
    exact tidy
  | cons entry cells ih =>
    rw [List.foldlM_cons] at kept
    obtain ⟨next, first, rest⟩ := bind_eq_ok.1 kept
    exact ih (tidy.store first) rest

theorem tidy_of_ofEntries {entries : Data.Entries} {maxDepth : Int}
    (stored : ofEntries entries maxDepth = .ok sheet) : sheet.Tidy := by
  obtain ⟨cells, _, stored⟩ := bind_eq_ok.1 stored
  obtain ⟨rows, _, stored⟩ := bind_eq_ok.1 stored
  obtain ⟨columns, _, stored⟩ := bind_eq_ok.1 stored
  obtain ⟨name, _, stored⟩ := bind_eq_ok.1 stored
  obtain ⟨start, made, stored⟩ := bind_eq_ok.1 stored
  exact (tidy_of_make made).storeAll stored

theorem ofData_result_ok {content : Data} {maxDepth : Int}
    (loaded : (ofData content maxDepth).result = .ok sheet) :
    ∃ (stored : Sheet) (count : Nat), stored.Tidy ∧ stored.recalculate.result = .ok count ∧
      sheet = stored.recalculate.sheet := by
  unfold ofData at loaded
  split at loaded
  · split at loaded
    · cases loaded
    next stored kept =>
      cases result : stored.recalculate.result with
      | error error =>
        simp only [result] at loaded
        cases loaded
      | ok count =>
        simp only [result] at loaded
        exact ⟨stored, count, tidy_of_ofEntries kept, result, (Except.ok.inj loaded).symm⟩
  · cases loaded

theorem Tidy.after {operation : Operation} (tidy : sheet.Tidy) : (sheet.after operation).Tidy := by
  cases operation with
  | update reference expression => exact tidy.update
  | recalculate => exact tidy.recalculate
  | clear => exact tidy.mapCells fun position cell before => before.cleared
  | addRow => exact tidy.addRow
  | addColumn => exact tidy.addColumn
  | removeRow index => exact tidy.removeRow
  | removeColumn index => exact tidy.removeColumn

theorem Reachable.tidy (reachable : Reachable sheet) : sheet.Tidy := by
  induction reachable with
  | made name maxDepth rows columns sheet made => exact tidy_of_make made
  | loaded content maxDepth sheet loaded =>
    obtain ⟨stored, _, tidy, _, rfl⟩ := ofData_result_ok loaded
    exact tidy.recalculate
  | after sheet operation _ tidy => exact tidy.after

end FormulaGrid.Sheet
