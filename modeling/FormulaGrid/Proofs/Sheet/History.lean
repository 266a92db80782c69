import FormulaGrid.Proofs.Sheet.Recalculation

/-! Recalculation forgets how a sheet came about. What it leaves depends on the size of the sheet,
on its depth and on its texts, so that the same texts stored in a new sheet lead to the same. -/
namespace FormulaGrid.Sheet

def updateAll (cells : List Cell) (sheet : Sheet) : Sheet :=
  cells.foldl (fun sheet cell => (sheet.update cell.reference cell.expression).sheet) sheet

section Texts

variable {sheet target : Sheet}

theorem text?_update (tidy : sheet.Tidy) (reference expression : String) (place : Position) :
    (sheet.update reference expression).sheet.text? place =
      if Position.ofReference? reference = some place then
        (sheet.text? place).map fun _ => expression
      else sheet.text? place := by
  unfold update cell
  cases found : sheet.cell? reference with
  | none =>
    dsimp only
    split
    next read =>
      have missing : sheet.cellAt? place = none := by
        rw [cell?, read] at found
        exact found
      change Option.map _ (sheet.cellAt? place) = _
      rw [text?, missing]
      rfl
    next => rfl
  | some cell =>
    obtain ⟨position, read, stored⟩ := cell?_eq_some_iff.1 found
    obtain ⟨change, same, changed⟩ := updateAt_sheet sheet cell.position reference expression
    have texts : Cell.expression ∘ change = (fun _ => expression) ∘ Cell.expression :=
      funext fun cell => (changed cell).2.1
    dsimp only
    rw [same, (tidy.cells position cell stored).placed, text?, cellAt?_modifyAt, text?]
    by_cases here : place = position
    · rw [if_pos here, if_pos (here ▸ read), Option.map_map, Option.map_map, texts]
    · have other : Position.ofReference? reference ≠ some place := fun also =>
        here (Option.some.inj (also.symm.trans read))
      rw [if_neg here, if_neg other]

theorem isSome_text? (tidy : sheet.Tidy) (place : Position) :
    (sheet.text? place).isSome =
      decide (place.row < sheet.rows ∧ place.column < sheet.columns) := by
  rw [Bool.eq_iff_iff, decide_eq_true_iff, ← tidy.exists_cellAt?_iff, text?, Option.isSome_map,
    Option.isSome_iff_exists]

theorem frame_updateAll (cells : List Cell) (target : Sheet) :
    (updateAll cells target).frame = target.frame := by
  induction cells generalizing target with
  | nil => rfl
  | cons cell cells ih => exact (ih _).trans (frame_update ..)

theorem Tidy.updateAll (cells : List Cell) (tidy : target.Tidy) :
    (updateAll cells target).Tidy := by
  induction cells generalizing target with
  | nil => exact tidy
  | cons cell cells ih => exact ih tidy.update

/-- Storing texts of a sheet in another one brings their texts together, if those that differ are
among them. -/
theorem text?_updateAll (tidy : sheet.Tidy) (before : target.Tidy) {cells : List Cell}
    (own : ∀ cell ∈ cells, cell ∈ sheet.cells)
    (inside : ∀ place, (target.text? place).isSome = (sheet.text? place).isSome)
    (waiting : ∀ place, target.text? place = sheet.text? place ∨
      ∃ cell ∈ cells, cell.position = place ∧ cell.expression ≠ "") (place : Position) :
    (Sheet.updateAll cells target).text? place = sheet.text? place := by
  induction cells generalizing target with
  | nil =>
    rcases waiting place with same | ⟨cell, member, _⟩
    · exact same
    · cases member
  | cons cell cells ih =>
    obtain ⟨first, others⟩ := List.forall_mem_cons.1 own
    obtain ⟨position, stored⟩ := mem_cells_iff.1 first
    have known := tidy.cells position cell stored
    have texts := text?_update before cell.reference cell.expression
    refine ih before.update others (fun place => ?_) fun place => ?_
    · rw [texts, ← inside]
      split
      · exact Option.isSome_map
      · rfl
    · rw [texts]
      split
      next read =>
        obtain rfl : place = position := (Position.eq_of_ofReference? read).trans known.placed
        have held : sheet.text? place = some cell.expression := by rw [text?, stored]; rfl
        have room : (target.text? place).isSome := by rw [inside, held]; rfl
        obtain ⟨former, found⟩ := Option.isSome_iff_exists.1 room
        rw [found, held]
        exact .inl rfl
      next elsewhere =>
        rcases waiting place with same | ⟨other, member, here, spelled⟩
        · exact .inl same
        · rcases List.mem_cons.1 member with rfl | later
          · have readable := known.readable spelled
            rw [← known.placed] at readable
            exact absurd (here ▸ Position.ofReference?_reference readable) elsewhere
          · exact .inr ⟨other, later, here, spelled⟩

end Texts

section Histories

variable {sheet other : Sheet}

theorem settle_same {cell former : Cell} (positive : 0 < sheet.maxDepth)
    (position : cell.position = former.position) (text : cell.expression = former.expression) :
    sheet.settle cell = sheet.settle former := by
  obtain ⟨row, column, expression, value, error⟩ := cell
  obtain ⟨_, _, _, valued, failed⟩ := former
  cases position
  cases text
  obtain ⟨outcome, valued⟩ := outcome_ok positive (Position.reference ⟨row, column⟩) expression
  simp only [settle, Cell.isFormula, Cell.reference, Cell.position, valued]
  cases outcome <;> rfl

theorem recalculate_same (tidy : sheet.Tidy) (before : other.Tidy) (positive : 0 < sheet.maxDepth)
    (same : SameTexts sheet other) :
    other.recalculate.sheet = { sheet.recalculate.sheet with name := other.name } := by
  have depth : 0 < other.maxDepth := same.maxDepth ▸ positive
  rw [(recalculate_eq before depth).2, (recalculate_eq tidy positive).2,
    ← settle_eq tidy before same]
  refine sheet_ext ?_ (grid_ext ?_ fun place => ?_)
  · simp [frame, mapCells, same.rows, same.columns, same.maxDepth]
  · simp [mapCells, tidy.length, before.length, same.rows]
  · change (other.mapCells sheet.settle).cellAt? place = (sheet.mapCells sheet.settle).cellAt? place
    have text := same.texts place
    unfold text? at text
    rw [cellAt?_mapCells, cellAt?_mapCells]
    cases found : sheet.cellAt? place with
    | none =>
      rw [found, Option.map_none, eq_comm, Option.map_eq_none_iff] at text
      rw [text]
    | some cell =>
      rw [found] at text
      obtain ⟨former, stored, expression⟩ := Option.map_eq_some_iff.1 text.symm
      have placed := (before.cells place former stored).placed
      rw [stored]
      exact congrArg some (settle_same positive
        (placed.trans (tidy.cells place cell found).placed.symm) expression)

theorem blank_or_covered {name : String} {maxDepth : Int} {order : List Cell} {place : Position}
    (tidy : sheet.Tidy)
    (covers : ∀ cell ∈ sheet.cells, cell.expression ≠ "" → cell ∈ order) :
    (blank name maxDepth sheet.rows sheet.columns).text? place = sheet.text? place ∨
      ∃ cell ∈ order, cell.position = place ∧ cell.expression ≠ "" := by
  rw [text?, text?, cellAt?_blank]
  cases stored : sheet.cellAt? place with
  | none =>
    have outside : ¬ (place.row < sheet.rows ∧ place.column < sheet.columns) := by
      rw [← tidy.exists_cellAt?_iff, stored]
      simp
    rw [if_neg outside]
    exact .inl rfl
  | some cell =>
    rw [if_pos (tidy.exists_cellAt?_iff.1 ⟨cell, stored⟩)]
    by_cases spelled : cell.expression = ""
    · exact .inl (congrArg some spelled.symm)
    · exact .inr ⟨cell, covers cell (mem_cells_iff.2 ⟨place, stored⟩) spelled,
        (tidy.cells place cell stored).placed, spelled⟩

theorem recalculate_updateAll {name : String} {order : List Cell} (tidy : sheet.Tidy)
    (positive : 0 < sheet.maxDepth) (own : ∀ cell ∈ order, cell ∈ sheet.cells)
    (covers : ∀ cell ∈ sheet.cells, cell.expression ≠ "" → cell ∈ order) :
    (updateAll order (blank name sheet.maxDepth sheet.rows sheet.columns)).recalculate.sheet =
      { sheet.recalculate.sheet with name := name } := by
  have start : (blank name sheet.maxDepth sheet.rows sheet.columns).Tidy :=
    tidy_blank tidy.rows_pos tidy.columns_pos
  have frame := frame_updateAll order (blank name sheet.maxDepth sheet.rows sheet.columns)
  have texts := text?_updateAll tidy start own (fun place => ?_)
    fun place => blank_or_covered tidy covers
  · have same : SameTexts sheet
        (updateAll order (blank name sheet.maxDepth sheet.rows sheet.columns)) :=
      ⟨(congrArg Sheet.rows frame).symm, (congrArg Sheet.columns frame).symm,
        (congrArg Sheet.maxDepth frame).symm, fun place => (texts place).symm⟩
    rw [recalculate_same tidy (start.updateAll order) positive same]
    exact congrArg (fun name => { sheet.recalculate.sheet with name := name })
      (congrArg Sheet.name frame)
  · rw [isSome_text? start, isSome_text? tidy]
    rfl

/-- What recalculation leaves does not depend on what came before it: sheets with the same texts
come to the same, so does a new sheet in which the texts are stored in any order, and so does
recalculating once more or in another order. -/
theorem recalculate_forgets (reachable : Reachable sheet) (positive : 0 < sheet.maxDepth) :
    (∃ count, sheet.recalculate.result = .ok count) ∧
    (∀ other, Reachable other → SameTexts sheet other →
      other.recalculate.sheet = { sheet.recalculate.sheet with name := other.name }) ∧
    (∀ name, ∃ fresh, make name sheet.maxDepth sheet.rows sheet.columns = .ok fresh ∧
      ∀ order : List Cell, (∀ cell ∈ order, cell ∈ sheet.cells) →
        (∀ cell ∈ sheet.cells, cell.expression ≠ "" → cell ∈ order) →
        (updateAll order fresh).recalculate.sheet =
          { sheet.recalculate.sheet with name := name }) ∧
    sheet.recalculate.sheet.recalculate.sheet = sheet.recalculate.sheet ∧
    (∀ order : List Position,
      (∀ cell ∈ sheet.cells, cell.expression ≠ "" → cell.position ∈ order) →
      (recomputeAt order sheet).sheet = sheet.recalculate.sheet) := by
  have tidy := reachable.tidy
  obtain ⟨counted, settled⟩ := recalculate_eq tidy positive
  refine ⟨counted, ?_, ?_, ?_, ?_⟩
  · exact fun other reached same => recalculate_same tidy reached.tidy positive same
  · intro name
    have rows := tidy.rows_pos
    have columns := tidy.columns_pos
    refine ⟨blank name sheet.maxDepth sheet.rows sheet.columns, ?_, fun order own covers => ?_⟩
    · rw [make, if_neg (by omega), Int.toNat_natCast, Int.toNat_natCast]
    · exact recalculate_updateAll tidy positive own covers
  · have again : SameTexts sheet sheet.recalculate.sheet := settled ▸ sameTexts_settle sheet
    have same := recalculate_same tidy tidy.recalculate positive again
    rw [same, settled]
  · intro order covers
    rw [recomputeAt_eq tidy positive order, settled]
    refine mapCells_congr fun cell member => ?_
    split
    · rfl
    next missed =>
      obtain ⟨position, stored⟩ := mem_cells_iff.1 member
      have blank : cell.expression = "" := by
        by_contra spelled
        exact missed (covers cell member spelled)
      refine (settle_plain (tidy.cells position cell stored) ?_).symm
      rw [Cell.isFormula, blank]
      rfl

theorem recalculate_forgets_stale :
    let stale := ((blank "" 64 1 2).after (.update "A1" "=B1")).after (.update "B1" "7")
    stale.recalculate.sheet.recalculate.sheet = stale.recalculate.sheet := by
  intro stale
  have made : make "" 64 1 2 = .ok (blank "" 64 1 2) := rfl
  have reachable : Reachable stale := .after _ _ (.after _ _ (.made _ _ _ _ _ made))
  have depth : stale.maxDepth = 64 :=
    congrArg Sheet.maxDepth ((frame_update ..).trans (frame_update ..))
  have positive : 0 < stale.maxDepth := by rw [depth]; decide
  exact (recalculate_forgets reachable positive).2.2.2.1

end Histories

end FormulaGrid.Sheet
