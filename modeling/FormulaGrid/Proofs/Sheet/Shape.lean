import FormulaGrid.Proofs.Sheet.Recalculation

/-! What every sheet looks like that operations lead to: a full rectangle of cells that know where
they stand, each of which shows its text, or what its formula came to, or an error and nothing
else. -/
namespace FormulaGrid.Sheet

open FormulaGrid.Failure FormulaGrid.Text
open FormulaGrid.Position (referenceOf_ok_iff referenceOf_eq ofReference?_eq_some_iff)

def Inside (sheet : Sheet) (place : Position) : Prop :=
  place.row < sheet.rows ∧ place.column < sheet.columns

section Rectangle

variable {sheet : Sheet} {name : String}

theorem Tidy.cell?_eq_some (tidy : sheet.Tidy) :
    (∃ cell, sheet.cell? name = some cell) ↔
      ∃ place, Position.ofReference name = .ok place ∧ sheet.Inside place := by
  constructor
  · rintro ⟨cell, found⟩
    obtain ⟨place, read, stored⟩ := cell?_eq_some_iff.1 found
    exact ⟨place, ofReference?_eq_some_iff.1 read, tidy.exists_cellAt?_iff.1 ⟨cell, stored⟩⟩
  · rintro ⟨place, read, inside⟩
    obtain ⟨cell, stored⟩ := tidy.exists_cellAt?_iff.2 inside
    exact ⟨cell, cell?_eq_some_iff.2 ⟨place, ofReference?_eq_some_iff.2 read, stored⟩⟩

theorem isSome_accessor : (sheet.accessor name).isSome ↔ ∃ cell, sheet.cell? name = some cell := by
  rw [accessor, Option.isSome_map, Option.isSome_iff_exists]

theorem exists_cell_ok_iff :
    (∃ cell, sheet.cell name = .ok cell) ↔ ∃ cell, sheet.cell? name = some cell := by
  unfold Sheet.cell
  cases sheet.cell? name <;> simp

theorem Tidy.reference_of_accessor {snapshot : Snapshot} (tidy : sheet.Tidy)
    (found : sheet.accessor name = some snapshot) :
    ∃ place, Position.ofReference name = .ok place ∧
      Position.referenceOf place.row place.column = .ok snapshot.reference := by
  obtain ⟨cell, held, rfl⟩ := Option.map_eq_some_iff.1 found
  obtain ⟨place, read, stored⟩ := cell?_eq_some_iff.1 held
  refine ⟨place, ofReference?_eq_some_iff.1 read, ?_⟩
  rw [referenceOf_eq (Position.readable_of_ofReference? read)]
  exact congrArg (fun place => Except.ok (Position.reference place))
    (tidy.cells place cell stored).placed.symm

theorem Tidy.grid_eq (tidy : sheet.Tidy) :
    sheet.grid = (List.range sheet.rows).map fun row => (List.range sheet.columns).map
      fun column => (sheet.cellAt? ⟨row, column⟩).getD (.blank row column) := by
  refine List.ext_getElem (by simp [tidy.length]) fun row below _ => ?_
  have width := tidy.width _ (List.getElem_mem below)
  rw [List.getElem_map, List.getElem_range]
  refine List.ext_getElem (by simp [width]) fun column inside _ => ?_
  rw [List.getElem_map, List.getElem_range, cellAt?_eq, List.getElem?_eq_getElem below,
    Option.bind_some, List.getElem?_eq_getElem inside, Option.getD_some]

theorem Tidy.places_eq (tidy : sheet.Tidy) :
    (sheet.cells.map fun cell => (cell.row, cell.column)) =
      List.range sheet.rows ×ˢ List.range sheet.columns := by
  rw [Sheet.cells, tidy.grid_eq, List.map_flatten, List.map_map, ← List.flatMap_def]
  refine List.flatMap_congr fun row below => ?_
  rw [Function.comp_apply, List.map_map]
  refine List.map_congr_left fun column inside => ?_
  have within : sheet.Inside ⟨row, column⟩ := ⟨List.mem_range.1 below, List.mem_range.1 inside⟩
  obtain ⟨cell, stored⟩ := tidy.exists_cellAt?_iff.2 within
  have placed := (tidy.cells _ cell stored).placed
  rw [Function.comp_apply, stored, Option.getD_some]
  exact congrArg (fun place : Position => (place.row, place.column)) placed

theorem Tidy.cellAt?_position {cell : Cell} (tidy : sheet.Tidy) (member : cell ∈ sheet.cells) :
    sheet.cellAt? cell.position = some cell := by
  obtain ⟨place, stored⟩ := mem_cells_iff.1 member
  rwa [(tidy.cells place cell stored).placed]

/-- Operations keep a sheet a full rectangle: there is one cell in each row and column and none
elsewhere, it stands where it says, exactly the references to these places lead to cells, and the
cells come in the order of their places. -/
theorem reachable_rectangular (reachable : Reachable sheet) :
    0 < sheet.rows ∧ 0 < sheet.columns ∧
    (∀ place, (∃ cell, sheet.cellAt? place = some cell) ↔ sheet.Inside place) ∧
    (∀ place cell, sheet.cellAt? place = some cell →
      cell.row = place.row ∧ cell.column = place.column) ∧
    (∀ name, ((sheet.accessor name).isSome ↔
        ∃ place, Position.ofReference name = .ok place ∧ sheet.Inside place) ∧
      ((∃ cell, sheet.cell name = .ok cell) ↔
        ∃ place, Position.ofReference name = .ok place ∧ sheet.Inside place) ∧
      ∀ snapshot, sheet.accessor name = some snapshot →
        ∃ place, Position.ofReference name = .ok place ∧
          Position.referenceOf place.row place.column = .ok snapshot.reference) ∧
    (sheet.cells.map fun cell => (cell.row, cell.column)) =
      List.range sheet.rows ×ˢ List.range sheet.columns ∧
    ∀ cell ∈ sheet.cells, sheet.cellAt? cell.position = some cell := by
  have tidy := reachable.tidy
  refine ⟨tidy.rows_pos, tidy.columns_pos, fun place => tidy.exists_cellAt?_iff,
    fun place cell stored => ?_, fun name => ⟨?_, ?_, fun snapshot => tidy.reference_of_accessor⟩,
    tidy.places_eq, fun cell => tidy.cellAt?_position⟩
  · have placed := (tidy.cells place cell stored).placed
    exact ⟨congrArg Position.row placed, congrArg Position.column placed⟩
  · exact isSome_accessor.trans tidy.cell?_eq_some
  · exact exists_cell_ok_iff.trans tidy.cell?_eq_some

theorem reachable_rectangular_mixed :
    let sheet := (((blank "" 64 1 1).after .addRow).after .addColumn).after (.removeRow 0)
    sheet.cells.map (fun cell => (cell.row, cell.column)) = [(0, 0), (0, 1)] := by
  intro sheet
  have made : make "" 64 1 1 = .ok (blank "" 64 1 1) := rfl
  have reachable : Reachable sheet := .after _ _ (.after _ _ (.after _ _ (.made _ _ _ _ _ made)))
  have rows : sheet.rows = 1 := rfl
  have columns : sheet.columns = 2 := rfl
  have order := (reachable_rectangular reachable).2.2.2.2.2.1
  rw [rows, columns] at order
  exact order

end Rectangle

section Records

variable {sheet : Sheet} {cell : Cell}

theorem isFormulaText_iff (text : String) :
    isFormulaText text ↔ ∃ c rest, trim text.toList = '=' :: c :: rest := by
  unfold isFormulaText
  split
  next c rest shape => simp [shape]
  next other =>
    simp only [Bool.false_eq_true, false_iff, not_exists]
    exact fun c rest shape => other c rest shape

/-- What a cell holds fits together after all operations: no value but that of its text in a cell
without a formula, and errors in formulas only, where no value is left beside them. -/
theorem reachable_consistent (reachable : Reachable sheet) (member : cell ∈ sheet.cells) :
    (cell.isFormula ↔ ∃ c rest, trim cell.expression.toList = '=' :: c :: rest) ∧
    (¬ cell.isFormula → cell.error = none ∧
      cell.value = if trim cell.expression.toList = [] then .empty else .text cell.expression) ∧
    (cell.error ≠ none → cell.isFormula ∧ cell.value = .empty) := by
  obtain ⟨place, stored⟩ := mem_cells_iff.1 member
  have tidy := reachable.tidy.cells place cell stored
  have plain (other : ¬ cell.isFormula) := tidy.shown (Bool.eq_false_iff.2 other)
  refine ⟨isFormulaText_iff cell.expression, fun other => ⟨(plain other).2, ?_⟩, fun failed => ?_⟩
  · rw [(plain other).1, literalValue]
    simp only [List.isEmpty_iff]
  · exact ⟨by_contra fun other => failed (plain other).2, tidy.failed failed⟩

theorem after_mention : (blank "" 64 1 2).after (.update "A1" "=B1") =
    ⟨"", 64, 1, 2, [[⟨0, 0, "=B1", .empty, none⟩, .blank 0 1]]⟩ := by
  have found : (blank "" 64 1 2).cell "A1" = .ok (.blank 0 0) := rfl
  have formula : isFormulaText "=B1" = true := by decide
  let edited := (blank "" 64 1 2).modifyAt (Cell.blank 0 0).position (·.withText "=B1")
  have mentioned : edited.cell? "B1" = some (.blank 0 1) := rfl
  have valued : edited.outcome "A1" "=B1" = .ok (.ok .empty) :=
    outcome_reference (by decide) (by cbv) (by decide) mentioned (by decide)
  simp only [edited] at valued
  simp only [after, update, found, updateAt, formula, if_true, valued]
  rfl

theorem reachable_consistent_overwritten :
    let cell : Cell := ⟨0, 0, "x", .text "x", none⟩
    let sheet := ((blank "" 64 1 2).after (.update "A1" "=B1")).after (.update "A1" "x")
    cell ∈ sheet.cells ∧ cell.error = none ∧ cell.value = .text "x" := by
  intro cell sheet
  have made : make "" 64 1 2 = .ok (blank "" 64 1 2) := rfl
  have reachable : Reachable sheet := .after _ _ (.after _ _ (.made _ _ _ _ _ made))
  have text : Sheet.after ⟨"", 64, 1, 2, [[⟨0, 0, "=B1", .empty, none⟩, .blank 0 1]]⟩
      (.update "A1" "x") = ⟨"", 64, 1, 2, [[cell, .blank 0 1]]⟩ := rfl
  have whole : sheet = ⟨"", 64, 1, 2, [[cell, .blank 0 1]]⟩ :=
    (congrArg (·.after (.update "A1" "x")) after_mention).trans text
  have member : cell ∈ sheet.cells := by
    rw [whole]
    exact List.mem_cons_self
  have plain : ¬ cell.isFormula := by decide
  obtain ⟨error, value⟩ := (reachable_consistent reachable member).2.1 plain
  exact ⟨member, error, value.trans (if_neg (by decide))⟩

end Records

end FormulaGrid.Sheet
