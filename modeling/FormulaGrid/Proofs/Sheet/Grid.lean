import FormulaGrid.Sheet.Basic

/-! The grid of a sheet as a map from positions to cells, and what changing cells makes of it. -/
namespace FormulaGrid.Sheet

section Cells

variable {sheet other : Sheet} {position : Position} {cell : Cell}

theorem cellAt?_eq (sheet : Sheet) (position : Position) :
    sheet.cellAt? position =
      sheet.grid[position.row]?.bind fun cells => cells[position.column]? := rfl

theorem mem_cells_iff : cell ∈ sheet.cells ↔ ∃ position, sheet.cellAt? position = some cell := by
  simp only [cells, List.mem_flatten, cellAt?_eq, Option.bind_eq_some_iff]
  constructor
  · rintro ⟨row, member, inside⟩
    obtain ⟨i, found⟩ := List.mem_iff_getElem?.1 member
    obtain ⟨j, stored⟩ := List.mem_iff_getElem?.1 inside
    exact ⟨⟨i, j⟩, row, found, stored⟩
  · rintro ⟨position, row, found, stored⟩
    exact ⟨row, List.mem_of_getElem? found, List.mem_of_getElem? stored⟩

theorem grid_ext (length : sheet.grid.length = other.grid.length)
    (same : ∀ position, sheet.cellAt? position = other.cellAt? position) :
    sheet.grid = other.grid := by
  refine List.ext_getElem length fun i first second => List.ext_getElem? fun j => ?_
  have stored := same ⟨i, j⟩
  rw [cellAt?_eq, cellAt?_eq, List.getElem?_eq_getElem first,
    List.getElem?_eq_getElem second] at stored
  exact stored

end Cells

def frame (sheet : Sheet) : Sheet :=
  { sheet with grid := [] }

theorem sheet_ext {sheet other : Sheet} (frame : sheet.frame = other.frame)
    (grid : sheet.grid = other.grid) : sheet = other := by
  have filled :
      { sheet.frame with grid := sheet.grid } = { other.frame with grid := other.grid } := by
    rw [frame, grid]
  exact filled

section Changes

variable (sheet : Sheet) (position place : Position) (change next : Cell → Cell)

def mapCells : Sheet :=
  { sheet with grid := sheet.grid.map (·.map change) }

@[simp] theorem frame_modifyAt : (sheet.modifyAt position change).frame = sheet.frame := rfl

theorem cellAt?_mapCells :
    (sheet.mapCells change).cellAt? place = (sheet.cellAt? place).map change := by
  rw [cellAt?_eq, cellAt?_eq, mapCells, List.getElem?_map]
  cases sheet.grid[place.row]? with
  | none => rfl
  | some cells => exact List.getElem?_map ..

theorem cellAt?_modifyAt :
    (sheet.modifyAt position change).cellAt? place =
      if place = position then (sheet.cellAt? place).map change else sheet.cellAt? place := by
  obtain ⟨row, column⟩ := position
  obtain ⟨i, j⟩ := place
  simp only [cellAt?_eq, modifyAt, List.getElem?_modify, Position.mk.injEq]
  cases sheet.grid[i]? with
  | none => simp
  | some cells =>
    by_cases same : row = i
    · by_cases under : column = j
      · simp [same, under]
      · simp [same, under, Ne.symm under]
    · simp [same, Ne.symm same]

theorem modifyAt_modifyAt :
    (sheet.modifyAt position change).modifyAt position next =
      sheet.modifyAt position (next ∘ change) := by
  simp only [modifyAt, List.modify_modify_eq, Function.comp_def]

variable {sheet position change next}

theorem mapCells_congr (same : ∀ cell ∈ sheet.cells, change cell = next cell) :
    sheet.mapCells change = sheet.mapCells next := by
  have rows : sheet.grid.map (·.map change) = sheet.grid.map (·.map next) :=
    List.map_congr_left fun cells member => List.map_congr_left fun cell inside =>
      same cell (List.mem_flatten.2 ⟨cells, member, inside⟩)
  rw [mapCells, rows, mapCells]

theorem mapCells_mapCells :
    (sheet.mapCells change).mapCells next = sheet.mapCells (next ∘ change) := by
  simp [mapCells]

theorem modifyAt_congr
    (same : ∀ cell, sheet.cellAt? position = some cell → change cell = next cell) :
    sheet.modifyAt position change = sheet.modifyAt position next := by
  refine sheet_ext rfl (grid_ext (by simp [modifyAt]) fun place => ?_)
  rw [cellAt?_modifyAt, cellAt?_modifyAt]
  split
  next here =>
    subst here
    cases found : sheet.cellAt? place with
    | none => rfl
    | some cell => exact congrArg some (same cell found)
  next => rfl

theorem modifyAt_eq_self (same : ∀ cell, sheet.cellAt? position = some cell → change cell = cell) :
    sheet.modifyAt position change = sheet := by
  have unchanged : sheet.modifyAt position id = sheet :=
    sheet_ext rfl (grid_ext (by simp [modifyAt]) fun place => by simp [cellAt?_modifyAt])
  exact (modifyAt_congr same).trans unchanged

end Changes

section Structure

variable (sheet : Sheet) (place : Position)

theorem getElem?_blankRow (row columns column : Nat) :
    (blankRow row columns)[column]? =
      if column < columns then some (Cell.blank row column) else none := by
  rw [blankRow, List.getElem?_map]
  split
  next inside => rw [List.getElem?_range inside]; rfl
  next outside => rw [List.getElem?_eq_none (by simpa using outside)]; rfl

theorem cellAt?_blank (name : String) (maxDepth : Int) (rows columns : Nat) :
    (blank name maxDepth rows columns).cellAt? place =
      if place.row < rows ∧ place.column < columns then some (Cell.blank place.row place.column)
      else none := by
  rw [cellAt?_eq, blank, List.getElem?_map]
  by_cases inside : place.row < rows
  · rw [List.getElem?_range inside]
    simp [getElem?_blankRow, inside]
  · rw [List.getElem?_eq_none (by simpa using inside)]
    simp [inside]

theorem getElem?_without {α : Type} (items : List α) (change : α → α) (index i : Nat) :
    (items.take index ++ (items.drop (index + 1)).map change)[i]? =
      if i < index then items[i]? else items[i + 1]?.map change := by
  rw [List.getElem?_append, List.length_take]
  by_cases early : i < index
  · by_cases inside : i < items.length
    · rw [if_pos (by omega), if_pos early, List.getElem?_take, if_pos early]
    · rw [if_neg (by omega), if_pos early, List.getElem?_eq_none (by simp; omega),
        List.getElem?_eq_none (by omega)]
  · rw [if_neg (by omega), if_neg early, List.getElem?_map, List.getElem?_drop]
    by_cases inside : index < items.length
    · rw [show index + 1 + (i - min index items.length) = i + 1 by omega]
    · rw [List.getElem?_eq_none (by omega), List.getElem?_eq_none (by omega)]

theorem cellAt?_dropRow (index : Nat) :
    (sheet.dropRow index).cellAt? place =
      if place.row < index then sheet.cellAt? place
      else (sheet.cellAt? ⟨place.row + 1, place.column⟩).map
        fun cell => { cell with row := cell.row - 1 } := by
  rw [cellAt?_eq, dropRow, getElem?_without]
  split
  · rfl
  · rw [cellAt?_eq]
    cases sheet.grid[place.row + 1]? with
    | none => rfl
    | some cells => exact List.getElem?_map ..

theorem cellAt?_dropColumn (index : Nat) :
    (sheet.dropColumn index).cellAt? place =
      if place.column < index then sheet.cellAt? place
      else (sheet.cellAt? ⟨place.row, place.column + 1⟩).map
        fun cell => { cell with column := cell.column - 1 } := by
  rw [cellAt?_eq, dropColumn, List.getElem?_map, cellAt?_eq, cellAt?_eq]
  cases sheet.grid[place.row]? with
  | none => simp
  | some cells => exact getElem?_without ..

variable {sheet place}

theorem cellAt?_addRow {cell : Cell} (stored : sheet.addRow.cellAt? place = some cell) :
    sheet.cellAt? place = some cell ∨
      place.row = sheet.grid.length ∧ cell = Cell.blank sheet.rows place.column := by
  obtain ⟨cells, found, inside⟩ := Option.bind_eq_some_iff.1 stored
  rw [addRow, List.getElem?_append] at found
  split at found
  · exact .inl (Option.bind_eq_some_iff.2 ⟨cells, found, inside⟩)
  next beyond =>
    rw [List.getElem?_singleton] at found
    split at found <;> cases found
    rw [getElem?_blankRow] at inside
    split at inside <;> cases inside
    exact .inr ⟨by omega, rfl⟩

theorem cellAt?_addColumn {cell : Cell} (stored : sheet.addColumn.cellAt? place = some cell) :
    sheet.cellAt? place = some cell ∨ ∃ cells ∈ sheet.grid,
      place.column = cells.length ∧ cell = Cell.blank place.row sheet.columns := by
  obtain ⟨cells, found, inside⟩ := Option.bind_eq_some_iff.1 stored
  rw [addColumn, List.getElem?_mapIdx] at found
  obtain ⟨former, before, rfl⟩ := Option.map_eq_some_iff.1 found
  rw [List.getElem?_append] at inside
  split at inside
  · exact .inl (Option.bind_eq_some_iff.2 ⟨former, before, inside⟩)
  next beyond =>
    rw [List.getElem?_singleton] at inside
    split at inside <;> cases inside
    exact .inr ⟨former, List.mem_of_getElem? before, by omega, rfl⟩

end Structure

end FormulaGrid.Sheet
