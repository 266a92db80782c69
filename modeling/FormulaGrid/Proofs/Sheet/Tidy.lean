import FormulaGrid.Proofs.Failure
import FormulaGrid.Proofs.Position.Reference
import FormulaGrid.Proofs.Sheet.Grid
import FormulaGrid.Sheet.Load

/-! Sheets whose cells are where they say they are, and show the value of their text unless it is a
formula. No operation on a sheet breaks this, whether it fails or not. -/
namespace FormulaGrid

/-- A cell that stands at a position, shows the value of its text unless that is a formula, shows
nothing beside an error, and has a text only where references lead. -/
structure Cell.Tidy (cell : Cell) (position : Position) : Prop where
  placed : cell.position = position
  shown : cell.isFormula = false → cell.value = literalValue cell.expression ∧ cell.error = none
  failed : cell.error ≠ none → cell.value = .empty
  readable : cell.expression ≠ "" → position.Readable

namespace Cell

variable {cell : Cell} {position : Position}

theorem tidy_blank (row column : Nat) : (blank row column).Tidy ⟨row, column⟩ where
  placed := rfl
  shown _ := ⟨rfl, rfl⟩
  failed _ := rfl
  readable spelled := absurd rfl spelled

theorem Tidy.cleared (tidy : cell.Tidy position) : cell.cleared.Tidy position := by
  rw [← tidy.placed]
  exact tidy_blank cell.row cell.column

theorem Tidy.literal (tidy : cell.Tidy position) (plain : cell.isFormula = false) :
    cell.literal = cell := by
  obtain ⟨value, error⟩ := tidy.shown plain
  rw [Cell.literal, ← value, ← error]

theorem tidy_literal (placed : cell.position = position)
    (readable : cell.expression ≠ "" → position.Readable) : cell.literal.Tidy position where
  placed := placed
  shown _ := ⟨rfl, rfl⟩
  failed error := absurd rfl error
  readable := readable

theorem tidy_formula (placed : cell.position = position) (formula : cell.isFormula)
    (failed : cell.error ≠ none → cell.value = .empty)
    (readable : cell.expression ≠ "" → position.Readable) : cell.Tidy position where
  placed := placed
  shown plain := by
    rw [formula] at plain
    cases plain
  failed := failed
  readable := readable

theorem failed_computed (outcome : Outcome) (failed : (cell.computed outcome).error ≠ none) :
    (cell.computed outcome).value = .empty := by
  cases outcome with
  | ok value => exact absurd rfl failed
  | error fault => rfl

theorem Tidy.rowBefore {row column : Nat} (tidy : cell.Tidy ⟨row + 1, column⟩) :
    Cell.Tidy { cell with row := cell.row - 1 } ⟨row, column⟩ where
  placed := by
    have placed := tidy.placed
    simp only [Cell.position, Position.mk.injEq] at placed ⊢
    omega
  shown := tidy.shown
  failed := tidy.failed
  readable spelled := by
    have readable := tidy.readable spelled
    simp only [Position.Readable] at readable ⊢
    omega

theorem Tidy.columnBefore {row column : Nat} (tidy : cell.Tidy ⟨row, column + 1⟩) :
    Cell.Tidy { cell with column := cell.column - 1 } ⟨row, column⟩ where
  placed := by
    have placed := tidy.placed
    simp only [Cell.position, Position.mk.injEq] at placed ⊢
    omega
  shown := tidy.shown
  failed := tidy.failed
  readable := tidy.readable

end Cell

namespace Sheet

open FormulaGrid.Failure

structure Tidy (sheet : Sheet) : Prop where
  rows_pos : 0 < sheet.rows
  columns_pos : 0 < sheet.columns
  length : sheet.grid.length = sheet.rows
  width : ∀ cells ∈ sheet.grid, cells.length = sheet.columns
  cells : ∀ position cell, sheet.cellAt? position = some cell → cell.Tidy position

section Structure

variable {sheet : Sheet} {position : Position} {cell : Cell}

theorem Tidy.exists_cellAt?_iff (tidy : sheet.Tidy) :
    (∃ cell, sheet.cellAt? position = some cell) ↔
      position.row < sheet.rows ∧ position.column < sheet.columns := by
  rw [← tidy.length]
  constructor
  · rintro ⟨cell, stored⟩
    obtain ⟨cells, found, inside⟩ := Option.bind_eq_some_iff.1 stored
    obtain ⟨row, same⟩ := List.getElem?_eq_some_iff.1 found
    obtain ⟨column, _⟩ := List.getElem?_eq_some_iff.1 inside
    rw [tidy.width cells (List.mem_of_getElem? found)] at column
    exact ⟨row, column⟩
  · rintro ⟨row, column⟩
    have wide := tidy.width _ (List.getElem_mem row)
    rw [cellAt?_eq, List.getElem?_eq_getElem row]
    exact ⟨_, List.getElem?_eq_getElem (wide ▸ column)⟩

theorem tidy_blank {name : String} {maxDepth : Int} {rows columns : Nat} (some_rows : 0 < rows)
    (some_columns : 0 < columns) : (blank name maxDepth rows columns).Tidy where
  rows_pos := some_rows
  columns_pos := some_columns
  length := by simp [blank]
  width := by simp [blank, blankRow]
  cells position cell stored := by
    rw [cellAt?_blank] at stored
    split at stored <;> cases stored
    exact Cell.tidy_blank position.row position.column

theorem Tidy.mapCells {change : Cell → Cell} (tidy : sheet.Tidy)
    (kept : ∀ position cell, cell.Tidy position → (change cell).Tidy position) :
    (sheet.mapCells change).Tidy where
  rows_pos := tidy.rows_pos
  columns_pos := tidy.columns_pos
  length := (List.length_map _).trans tidy.length
  width := by
    simp only [Sheet.mapCells, List.forall_mem_map, List.length_map]
    exact tidy.width
  cells position cell stored := by
    rw [cellAt?_mapCells] at stored
    obtain ⟨former, found, rfl⟩ := Option.map_eq_some_iff.1 stored
    exact kept position former (tidy.cells position former found)

theorem Tidy.modifyAt {change : Cell → Cell} (tidy : sheet.Tidy)
    (kept : ∀ cell, cell.Tidy position → (change cell).Tidy position) :
    (sheet.modifyAt position change).Tidy where
  rows_pos := tidy.rows_pos
  columns_pos := tidy.columns_pos
  length := (List.length_modify ..).trans tidy.length
  width cells member := by
    obtain ⟨row, stored⟩ := List.mem_iff_getElem?.1 member
    rw [Sheet.modifyAt, List.getElem?_modify] at stored
    obtain ⟨former, found, rfl⟩ := Option.map_eq_some_iff.1 stored
    have wide := tidy.width former (List.mem_of_getElem? found)
    split
    · exact (List.length_modify ..).trans wide
    · exact wide
  cells place cell stored := by
    rw [cellAt?_modifyAt] at stored
    split at stored
    next here =>
      obtain ⟨former, found, rfl⟩ := Option.map_eq_some_iff.1 stored
      have before := tidy.cells place former found
      subst here
      exact kept former before
    next => exact tidy.cells place cell stored

theorem Tidy.addRow (tidy : sheet.Tidy) : sheet.addRow.Tidy where
  rows_pos := Nat.succ_pos _
  columns_pos := tidy.columns_pos
  length := by simp [Sheet.addRow, tidy.length]
  width := by
    simp only [Sheet.addRow, List.forall_mem_append, List.forall_mem_singleton]
    exact ⟨tidy.width, by simp [blankRow]⟩
  cells position cell stored := by
    rcases cellAt?_addRow stored with before | ⟨row, rfl⟩
    · exact tidy.cells position cell before
    · have blank := Cell.tidy_blank sheet.rows position.column
      rw [← tidy.length, ← row] at blank ⊢
      exact blank

theorem Tidy.addColumn (tidy : sheet.Tidy) : sheet.addColumn.Tidy where
  rows_pos := tidy.rows_pos
  columns_pos := Nat.succ_pos _
  length := by simp [Sheet.addColumn, tidy.length]
  width cells member := by
    obtain ⟨row, inside, rfl⟩ := List.mem_mapIdx.1 member
    simp [Sheet.addColumn, tidy.width _ (List.getElem_mem inside)]
  cells position cell stored := by
    rcases cellAt?_addColumn stored with before | ⟨cells, member, column, rfl⟩
    · exact tidy.cells position cell before
    · have blank := Cell.tidy_blank position.row sheet.columns
      rw [← tidy.width cells member, ← column] at blank ⊢
      exact blank

theorem Tidy.dropRow {index : Nat} (tidy : sheet.Tidy) (others : 1 < sheet.rows)
    (inside : index < sheet.rows) : (sheet.dropRow index).Tidy where
  rows_pos := Nat.sub_pos_of_lt others
  columns_pos := tidy.columns_pos
  length := by
    simp only [Sheet.dropRow, List.length_append, List.length_take, List.length_map,
      List.length_drop, tidy.length]
    omega
  width := by
    simp only [Sheet.dropRow, List.forall_mem_append, List.forall_mem_map, List.length_map]
    exact ⟨fun cells member => tidy.width cells (List.mem_of_mem_take member),
      fun cells member => tidy.width cells (List.mem_of_mem_drop member)⟩
  cells position cell stored := by
    rw [cellAt?_dropRow] at stored
    split at stored
    · exact tidy.cells position cell stored
    · obtain ⟨former, found, rfl⟩ := Option.map_eq_some_iff.1 stored
      exact (tidy.cells ⟨position.row + 1, position.column⟩ former found).rowBefore

theorem Tidy.dropColumn {index : Nat} (tidy : sheet.Tidy) (others : 1 < sheet.columns)
    (inside : index < sheet.columns) : (sheet.dropColumn index).Tidy where
  rows_pos := tidy.rows_pos
  columns_pos := Nat.sub_pos_of_lt others
  length := (List.length_map _).trans tidy.length
  width := by
    simp only [Sheet.dropColumn, List.forall_mem_map, List.length_append, List.length_take,
      List.length_map, List.length_drop]
    intro cells member
    rw [tidy.width cells member]
    omega
  cells position cell stored := by
    rw [cellAt?_dropColumn] at stored
    split at stored
    · exact tidy.cells position cell stored
    · obtain ⟨former, found, rfl⟩ := Option.map_eq_some_iff.1 stored
      exact (tidy.cells ⟨position.row, position.column + 1⟩ former found).columnBefore

theorem modifyAt_eq_mapCells {change : Cell → Cell} (tidy : sheet.Tidy) :
    sheet.modifyAt position change =
      sheet.mapCells fun cell => if cell.position = position then change cell else cell := by
  refine sheet_ext rfl (grid_ext (by simp [Sheet.modifyAt, Sheet.mapCells]) fun place => ?_)
  rw [cellAt?_modifyAt, cellAt?_mapCells]
  cases stored : sheet.cellAt? place with
  | none => simp
  | some cell =>
    rw [Option.map_some, Option.map_some, (tidy.cells place cell stored).placed]
    split <;> rfl

end Structure

section Arguments

variable (sheet : Sheet) (reference expression : String) (index : Int)

/-- Whether an operation refuses its arguments: it fails at once, and not for want of depth. -/
def Refuses {α : Type} (change : Change α) : Prop :=
  ∃ error, change = .of (.error error) sheet ∧ error ≠ .invalidDepth sheet.maxDepth

theorem update_cases :
    sheet.Refuses (sheet.update reference expression) ∨
      ∃ cell, sheet.cell? reference = some cell ∧
        sheet.update reference expression =
          sheet.updateAt cell.position reference expression := by
  unfold update cell
  cases sheet.cell? reference with
  | none => exact .inl ⟨_, rfl, by simp⟩
  | some cell => exact .inr ⟨cell, rfl, rfl⟩

theorem removeRow_cases :
    sheet.Refuses (sheet.removeRow index) ∨
      (1 < sheet.rows ∧ index.toNat < sheet.rows) ∧
        sheet.removeRow index = (sheet.dropRow index.toNat).recalculateOnly := by
  unfold removeRow
  by_cases last : sheet.rows ≤ 1
  · rw [if_pos last]
    exact .inl ⟨_, rfl, by simp⟩
  · rw [if_neg last]
    by_cases outside : index < 0 ∨ sheet.rows ≤ index
    · rw [if_pos outside]
      exact .inl ⟨_, rfl, by simp⟩
    · rw [if_neg outside]
      exact .inr ⟨by omega, rfl⟩

theorem removeColumn_cases :
    sheet.Refuses (sheet.removeColumn index) ∨
      (1 < sheet.columns ∧ index.toNat < sheet.columns) ∧
        sheet.removeColumn index = (sheet.dropColumn index.toNat).recalculateOnly := by
  unfold removeColumn
  by_cases last : sheet.columns ≤ 1
  · rw [if_pos last]
    exact .inl ⟨_, rfl, by simp⟩
  · rw [if_neg last]
    by_cases outside : index < 0 ∨ sheet.columns ≤ index
    · rw [if_pos outside]
      exact .inl ⟨_, rfl, by simp⟩
    · rw [if_neg outside]
      exact .inr ⟨by omega, rfl⟩

end Arguments

section Operations

variable {sheet : Sheet} {position : Position}

theorem cell?_eq_some_iff {reference : String} {cell : Cell} :
    sheet.cell? reference = some cell ↔
      ∃ position, Position.ofReference? reference = some position ∧
        sheet.cellAt? position = some cell :=
  Option.bind_eq_some_iff

theorem updateAt_sheet (sheet : Sheet) (position : Position) (reference expression : String) :
    ∃ change : Cell → Cell,
      (sheet.updateAt position reference expression).sheet = sheet.modifyAt position change ∧
      ∀ cell, (change cell).position = cell.position ∧ (change cell).expression = expression ∧
        (isFormulaText expression = false →
          (change cell).value = literalValue expression ∧ (change cell).error = none) ∧
        ((cell.error ≠ none → cell.value = .empty) →
          (change cell).error ≠ none → (change cell).value = .empty) := by
  unfold updateAt
  dsimp only
  split
  next formula =>
    split
    next error failed => exact ⟨_, rfl, fun cell => ⟨rfl, rfl, by simp [formula], id⟩⟩
    next outcome valued =>
      refine ⟨_, modifyAt_modifyAt .., fun cell => ⟨?_, ?_, by simp [formula], fun _ => ?_⟩⟩
      · cases outcome <;> rfl
      · cases outcome <;> rfl
      · exact Cell.failed_computed outcome
  next plain =>
    exact ⟨_, modifyAt_modifyAt .., fun cell => ⟨rfl, rfl, fun _ => ⟨rfl, rfl⟩,
      fun _ error => absurd rfl error⟩⟩

theorem Tidy.updateAt {reference expression : String} (tidy : sheet.Tidy)
    (readable : expression ≠ "" → position.Readable) :
    (sheet.updateAt position reference expression).sheet.Tidy := by
  obtain ⟨change, same, changed⟩ := updateAt_sheet sheet position reference expression
  rw [same]
  refine tidy.modifyAt fun cell before => ?_
  obtain ⟨kept, text, literal, error⟩ := changed cell
  refine ⟨kept.trans before.placed, fun plain => ?_, error before.failed, text.symm ▸ readable⟩
  rw [Cell.isFormula, text] at plain
  rw [text]
  exact literal plain

theorem Tidy.update {reference expression : String} (tidy : sheet.Tidy) :
    (sheet.update reference expression).sheet.Tidy := by
  rcases update_cases sheet reference expression with ⟨_, same, _⟩ | ⟨cell, found, same⟩
  · rw [same]
    exact tidy
  · obtain ⟨position, read, stored⟩ := cell?_eq_some_iff.1 found
    rw [same, (tidy.cells position cell stored).placed]
    exact tidy.updateAt fun _ => Position.readable_of_ofReference? read

@[simp]
theorem frame_updateAt (sheet : Sheet) (position : Position) (reference expression : String) :
    (sheet.updateAt position reference expression).sheet.frame = sheet.frame := by
  obtain ⟨change, same, _⟩ := updateAt_sheet sheet position reference expression
  rw [same, frame_modifyAt]

@[simp]
theorem frame_update (sheet : Sheet) (reference expression : String) :
    (sheet.update reference expression).sheet.frame = sheet.frame := by
  rcases update_cases sheet reference expression with ⟨_, same, _⟩ | ⟨cell, _, same⟩
  · rw [same]
    rfl
  · rw [same, frame_updateAt]

/-- Recomputing cells passes over one without a text. Any other one is updated, and where this fails
the rest is not visited. -/
theorem recomputeAt_step (sheet : Sheet) (position : Position) (positions : List Position) :
    (∀ cell, sheet.cellAt? position = some cell → cell.expression = "") ∧
        recomputeAt (position :: positions) sheet = recomputeAt positions sheet ∨
      ∃ cell, sheet.cellAt? position = some cell ∧ cell.expression ≠ "" ∧
        let change := recomputeAt (position :: positions) sheet
        let updated := sheet.updateAt position cell.reference cell.expression
        (∃ error, updated.result = .error error ∧ change.result = .error error ∧
          change.sheet = updated.sheet) ∨
        ∃ outcome, updated.result = .ok outcome ∧
          change.result = (recomputeAt positions updated.sheet).result.map (· + 1) ∧
          change.sheet = (recomputeAt positions updated.sheet).sheet := by
  rw [recomputeAt]
  cases stored : sheet.cellAt? position with
  | none => exact .inl ⟨by simp, rfl⟩
  | some cell =>
    dsimp only
    by_cases empty : cell.expression = ""
    · rw [if_pos empty]
      exact .inl ⟨fun other same => Option.some.inj same ▸ empty, rfl⟩
    · rw [if_neg empty]
      refine .inr ⟨cell, rfl, empty, ?_⟩
      generalize sheet.updateAt position cell.reference cell.expression = updated
      unfold Change.andThen
      cases result : updated.result with
      | error error => exact .inl ⟨error, rfl, rfl, rfl⟩
      | ok outcome =>
        refine .inr ⟨outcome, rfl, ?_⟩
        dsimp only
        cases (recomputeAt positions updated.sheet).result <;> exact ⟨rfl, rfl⟩

/-- What every update of a tidy sheet's cell keeps, recomputing any cells keeps. -/
theorem recomputeAt_induction (kept : Sheet → Prop) {sheet : Sheet} (positions : List Position)
    (start : kept sheet)
    (step : ∀ sheet position cell, kept sheet → sheet.cellAt? position = some cell →
      cell.expression ≠ "" → kept (sheet.updateAt position cell.reference cell.expression).sheet) :
    kept (recomputeAt positions sheet).sheet := by
  induction positions generalizing sheet with
  | nil => exact start
  | cons position positions ih =>
    rcases recomputeAt_step sheet position positions with ⟨_, same⟩ | ⟨cell, stored, spelled, more⟩
    · rw [same]
      exact ih start
    · have updated := step sheet position cell start stored spelled
      rcases more with ⟨_, _, _, same⟩ | ⟨_, _, _, same⟩
      · rw [same]
        exact updated
      · rw [same]
        exact ih updated

theorem Tidy.recomputeAt {positions : List Position} (tidy : sheet.Tidy) :
    (recomputeAt positions sheet).sheet.Tidy := by
  refine recomputeAt_induction Tidy positions tidy fun sheet position cell tidy stored spelled => ?_
  exact tidy.updateAt fun _ => (tidy.cells position cell stored).readable spelled

theorem frame_recomputeAt (positions : List Position) (sheet : Sheet) :
    (recomputeAt positions sheet).sheet.frame = sheet.frame :=
  recomputeAt_induction (fun other => other.frame = sheet.frame) positions rfl
    fun _ _ _ kept _ _ => (frame_updateAt ..).trans kept

theorem recalculate_sheet (sheet : Sheet) :
    sheet.recalculate.sheet = (recomputeAt (sheet.cells.map Cell.position) sheet).sheet := by
  unfold recalculate Change.andThen
  split <;> rfl

theorem recalculate_result (sheet : Sheet) :
    sheet.recalculate.result = (recomputeAt (sheet.cells.map Cell.position) sheet).result := by
  unfold recalculate Change.andThen
  split
  next error failed => exact failed.symm
  next count done => exact done.symm

theorem frame_recalculate (sheet : Sheet) : sheet.recalculate.sheet.frame = sheet.frame := by
  rw [recalculate_sheet]
  exact frame_recomputeAt (sheet.cells.map Cell.position) sheet

theorem recalculateOnly_sheet (sheet : Sheet) :
    sheet.recalculateOnly.sheet = sheet.recalculate.sheet := by
  unfold recalculateOnly Change.andThen
  split <;> rfl

theorem recalculateOnly_result (sheet : Sheet) :
    sheet.recalculateOnly.result = sheet.recalculate.result.map fun _ => () := by
  unfold recalculateOnly Change.andThen
  cases sheet.recalculate.result <;> rfl

theorem Tidy.store {reference : String} {content : Data} {stored : Sheet} (tidy : sheet.Tidy)
    (kept : sheet.store reference content = .ok stored) : stored.Tidy := by
  unfold Sheet.store at kept
  split at kept
  · cases kept
  next cell found =>
    split at kept <;> cases kept
    obtain ⟨position, read, held⟩ := cell?_eq_some_iff.1 found
    rw [(tidy.cells position cell held).placed]
    refine tidy.modifyAt fun cell before => ?_
    have readable (_ : contentText content ≠ "") : position.Readable :=
      Position.readable_of_ofReference? read
    dsimp only
    split
    next formula => exact Cell.tidy_formula before.placed formula before.failed readable
    next => exact Cell.tidy_literal before.placed readable

end Operations

end Sheet
end FormulaGrid
