import FormulaGrid.Proofs.Sheet.History

/-! Sequences of edits that come to the same. Removing a line of cells and recalculating leaves what
the remaining texts come to, so that it only matters which texts end up where. -/
namespace FormulaGrid

inductive Axis where
  | row
  | column

namespace Axis

def size (sheet : Sheet) : Axis → Nat
  | .row => sheet.rows
  | .column => sheet.columns

def line (place : Position) : Axis → Nat
  | .row => place.row
  | .column => place.column

def across (place : Position) (line : Nat) : Axis → Position
  | .row => ⟨line, place.column⟩
  | .column => ⟨place.row, line⟩

def add : Axis → Sheet.Operation
  | .row => .addRow
  | .column => .addColumn

def remove (index : Nat) : Axis → Sheet.Operation
  | .row => .removeRow index
  | .column => .removeColumn index

def drop (sheet : Sheet) (index : Nat) : Axis → Sheet
  | .row => sheet.dropRow index
  | .column => sheet.dropColumn index

@[simp] theorem line_across (axis : Axis) (place : Position) (line : Nat) :
    axis.line (axis.across place line) = line := by
  cases axis <;> rfl

@[simp] theorem across_across (axis : Axis) (place : Position) (line other : Nat) :
    axis.across (axis.across place line) other = axis.across place other := by
  cases axis <;> rfl

end Axis

/-- Where a line stands that was at an index before the line `removed` went. -/
def shifted (removed index : Nat) : Nat :=
  if removed < index then index - 1 else index

/-- Where the line that now stands at an index was before the line `removed` went. -/
def former (removed index : Nat) : Nat :=
  if index < removed then index else index + 1

namespace Sheet

open FormulaGrid.Failure

def result (sheet : Sheet) : Operation → Except SheetError Unit
  | .update reference expression => (sheet.update reference expression).result.map fun _ => ()
  | .recalculate => sheet.recalculate.result.map fun _ => ()
  | .clear | .addRow | .addColumn => .ok ()
  | .removeRow index => (sheet.removeRow index).result
  | .removeColumn index => (sheet.removeColumn index).result

def perform (sheet : Sheet) : List Operation → Except SheetError Sheet
  | [] => .ok sheet
  | operation :: operations => do
    sheet.result operation
    (sheet.after operation).perform operations

/-- Whether two sequences of operations both go through and leave the same sheet. -/
def Interchangeable (sheet : Sheet) (first second : List Operation) : Prop :=
  ∃ final, sheet.perform first = .ok final ∧ sheet.perform second = .ok final

/-- Two sheets that hold the same texts and are otherwise alike, whatever values they show. Their
formulas can be computed. -/
structure Equivalent (sheet other : Sheet) : Prop where
  tidy : sheet.Tidy
  otherTidy : other.Tidy
  positive : 0 < sheet.maxDepth
  frame : sheet.frame = other.frame
  texts : ∀ place, sheet.text? place = other.text? place

section Equivalence

variable {sheet other third : Sheet} {axis : Axis} {index : Nat}

theorem Equivalent.sameTexts (same : Equivalent sheet other) : SameTexts sheet other where
  rows := (congrArg Sheet.rows same.frame :)
  columns := (congrArg Sheet.columns same.frame :)
  maxDepth := (congrArg Sheet.maxDepth same.frame :)
  texts := same.texts

theorem Equivalent.refl (tidy : sheet.Tidy) (positive : 0 < sheet.maxDepth) :
    Equivalent sheet sheet :=
  ⟨tidy, tidy, positive, rfl, fun _ => rfl⟩

theorem Equivalent.symm (same : Equivalent sheet other) : Equivalent other sheet :=
  ⟨same.otherTidy, same.tidy, same.sameTexts.maxDepth ▸ same.positive, same.frame.symm,
    fun place => (same.texts place).symm⟩

theorem Equivalent.recalculate_eq (same : Equivalent sheet other) :
    sheet.recalculate.sheet = other.recalculate.sheet := by
  have named : sheet.recalculate.sheet.name = other.name :=
    (congrArg Sheet.name ((frame_recalculate sheet).trans same.frame) :)
  rw [recalculate_same same.tidy same.otherTidy same.positive same.sameTexts, ← named]

theorem Equivalent.recalculated (same : Equivalent sheet other) :
    Equivalent sheet.recalculate.sheet other where
  tidy := same.tidy.recalculate
  otherTidy := same.otherTidy
  positive := (congrArg Sheet.maxDepth (frame_recalculate sheet) :).symm ▸ same.positive
  frame := (frame_recalculate sheet).trans same.frame
  texts place := by
    rw [(Sheet.recalculate_eq same.tidy same.positive).2, ← same.texts]
    exact ((sameTexts_settle sheet).texts place).symm

theorem Equivalent.update (same : Equivalent sheet other) (reference expression : String) :
    Equivalent (sheet.update reference expression).sheet
      (other.update reference expression).sheet where
  tidy := same.tidy.update
  otherTidy := same.otherTidy.update
  positive := (congrArg Sheet.maxDepth (frame_update sheet _ _) :).symm ▸ same.positive
  frame := by rw [frame_update, frame_update, same.frame]
  texts place := by rw [text?_update same.tidy, text?_update same.otherTidy, same.texts]

theorem frame_drop (axis : Axis) (sheet : Sheet) (index : Nat) :
    (axis.drop sheet index).frame = axis.drop sheet.frame index := by
  cases axis <;> simp [Axis.drop, dropRow, dropColumn, Sheet.frame]

theorem maxDepth_drop (axis : Axis) (sheet : Sheet) (index : Nat) :
    (axis.drop sheet index).maxDepth = sheet.maxDepth := by
  cases axis <;> rfl

theorem text?_drop (axis : Axis) (sheet : Sheet) (index : Nat) (place : Position) :
    (axis.drop sheet index).text? place =
      sheet.text? (axis.across place (former index (axis.line place))) := by
  cases axis with
  | row =>
    rw [text?, Axis.drop, cellAt?_dropRow, text?, Axis.across, Axis.line, former]
    split
    · rfl
    · rw [Option.map_map]
      rfl
  | column =>
    rw [text?, Axis.drop, cellAt?_dropColumn, text?, Axis.across, Axis.line, former]
    split
    · rfl
    · rw [Option.map_map]
      rfl

theorem size_frame (axis : Axis) (sheet : Sheet) : axis.size sheet.frame = axis.size sheet := by
  cases axis <;> rfl

theorem Equivalent.size_eq (same : Equivalent sheet other) : axis.size sheet = axis.size other := by
  rw [← size_frame, same.frame, size_frame]

theorem Tidy.drop (tidy : sheet.Tidy) (others : 1 < axis.size sheet)
    (inside : index < axis.size sheet) : (axis.drop sheet index).Tidy := by
  cases axis with
  | row => exact tidy.dropRow others inside
  | column => exact tidy.dropColumn others inside

theorem Equivalent.drop (same : Equivalent sheet other) (others : 1 < axis.size sheet)
    (inside : index < axis.size sheet) :
    Equivalent (axis.drop sheet index) (axis.drop other index) where
  tidy := same.tidy.drop others inside
  otherTidy := same.otherTidy.drop (same.size_eq ▸ others) (same.size_eq ▸ inside)
  positive := (maxDepth_drop axis sheet index).symm ▸ same.positive
  frame := by rw [frame_drop, frame_drop, same.frame]
  texts place := by rw [text?_drop, text?_drop, same.texts]

end Equivalence

section Performing

variable {sheet base : Sheet} {axis : Axis} {index : Nat} {operations : List Operation}

theorem perform_cons {operation : Operation} (done : sheet.result operation = .ok ()) :
    sheet.perform (operation :: operations) = (sheet.after operation).perform operations := by
  rw [perform, done]
  rfl

theorem recalculateOnly_done (tidy : sheet.Tidy) (positive : 0 < sheet.maxDepth) :
    sheet.recalculateOnly.result = .ok () := by
  obtain ⟨⟨count, counted⟩, _⟩ := recalculate_eq tidy positive
  rw [recalculateOnly, Change.andThen, counted]
  rfl

/-- Removing a line recalculates what dropping it leaves. -/
theorem remove_done (tidy : sheet.Tidy) (positive : 0 < sheet.maxDepth)
    (others : 1 < axis.size sheet) (inside : index < axis.size sheet) :
    sheet.result (axis.remove index) = .ok () ∧
      sheet.after (axis.remove index) = (axis.drop sheet index).recalculate.sheet := by
  have dropped := tidy.drop others inside
  cases axis with
  | row =>
    change 1 < sheet.rows at others
    change index < sheet.rows at inside
    have removed : sheet.removeRow index = (sheet.dropRow index).recalculateOnly := by
      rw [removeRow, if_neg (by omega), if_neg (by omega), Int.toNat_natCast]
    rw [Axis.remove, result, after, removed]
    exact ⟨recalculateOnly_done dropped positive, recalculateOnly_sheet _⟩
  | column =>
    change 1 < sheet.columns at others
    change index < sheet.columns at inside
    have removed : sheet.removeColumn index = (sheet.dropColumn index).recalculateOnly := by
      rw [removeColumn, if_neg (by omega), if_neg (by omega), Int.toNat_natCast]
    rw [Axis.remove, result, after, removed]
    exact ⟨recalculateOnly_done dropped positive, recalculateOnly_sheet _⟩

theorem Equivalent.perform_remove (same : Equivalent sheet base) (others : 1 < axis.size base)
    (inside : index < axis.size base) :
    sheet.perform (axis.remove index :: operations) =
      (axis.drop base index).recalculate.sheet.perform operations := by
  rw [← same.size_eq] at others inside
  obtain ⟨done, left⟩ := remove_done same.tidy same.positive others inside
  rw [perform_cons done, left, (same.drop others inside).recalculate_eq]

theorem Equivalent.perform_recalculate (same : Equivalent sheet base) :
    sheet.perform [.recalculate] = .ok base.recalculate.sheet := by
  obtain ⟨⟨count, counted⟩, _⟩ := Sheet.recalculate_eq same.tidy same.positive
  rw [perform_cons (by rw [result, counted]; rfl), after, same.recalculate_eq, perform]

theorem Equivalent.perform_update {reference expression : String} {place : Position}
    (same : Equivalent sheet base) (read : Position.ofReference reference = .ok place)
    (row : place.row < base.rows) (column : place.column < base.columns) :
    sheet.perform (.update reference expression :: operations) =
      (sheet.update reference expression).sheet.perform operations := by
  rw [← same.sameTexts.rows] at row
  rw [← same.sameTexts.columns] at column
  obtain ⟨cell, stored⟩ := same.tidy.exists_cellAt?_iff.2 ⟨row, column⟩
  have found : sheet.cell? reference = some cell :=
    cell?_eq_some_iff.2 ⟨place, toOption_eq_some.2 read, stored⟩
  have done : sheet.result (.update reference expression) = .ok () := by
    rw [result, Sheet.update, Sheet.cell, found]
    unfold updateAt
    dsimp only
    split
    · have positive : 0 < (sheet.modifyAt cell.position (·.withText expression)).maxDepth :=
        same.positive
      obtain ⟨outcome, valued⟩ := outcome_ok positive reference expression
      rw [valued]
      rfl
    · rfl
  rw [perform_cons done, after]

end Performing

section Composition

variable {sheet : Sheet} {axis : Axis} {i j : Nat}

theorem Equivalent.interchangeable {left right : Sheet} {first second : List Operation}
    (same : Equivalent left right) (done : sheet.perform first = .ok left.recalculate.sheet)
    (also : sheet.perform second = .ok right.recalculate.sheet) :
    sheet.Interchangeable first second :=
  ⟨_, done, same.recalculate_eq ▸ also⟩

theorem perform_removals (first second : Axis) {early late : Nat}
    (same : Equivalent sheet sheet) (others : 1 < first.size sheet)
    (inside : early < first.size sheet) (more : 1 < second.size (first.drop sheet early))
    (within : late < second.size (first.drop sheet early)) :
    sheet.perform [first.remove early, second.remove late] =
      .ok (second.drop (first.drop sheet early) late).recalculate.sheet := by
  rw [same.perform_remove others inside,
    (same.drop others inside).recalculated.perform_remove more within, perform]

theorem size_drop (axis : Axis) (sheet : Sheet) (index : Nat) :
    axis.size (axis.drop sheet index) = axis.size sheet - 1 := by
  cases axis <;> rfl

theorem Equivalent.drop_drop (same : Equivalent sheet sheet) (ordered : i ≤ j)
    (others : 2 < axis.size sheet) (inside : j + 1 < axis.size sheet) :
    Equivalent (axis.drop (axis.drop sheet i) j) (axis.drop (axis.drop sheet (j + 1)) i) where
  tidy := (same.tidy.drop (by omega) (by omega)).drop (by rw [size_drop]; omega)
    (by rw [size_drop]; omega)
  otherTidy := (same.tidy.drop (by omega) inside).drop (by rw [size_drop]; omega)
    (by rw [size_drop]; omega)
  positive := by simpa only [maxDepth_drop] using same.positive
  frame := by cases axis <;> simp [Axis.drop, dropRow, dropColumn, Sheet.frame]
  texts place := by
    have lines : former i (former j (axis.line place)) =
        former (j + 1) (former i (axis.line place)) := by
      grind [former]
    simp only [text?_drop, Axis.line_across, Axis.across_across, lines]

theorem Equivalent.dropRow_dropColumn (same : Equivalent sheet sheet) (rows : 1 < sheet.rows)
    (row : i < sheet.rows) (columns : 1 < sheet.columns) (column : j < sheet.columns) :
    Equivalent ((sheet.dropRow i).dropColumn j) ((sheet.dropColumn j).dropRow i) where
  tidy := (same.tidy.dropRow rows row).dropColumn columns column
  otherTidy := (same.tidy.dropColumn columns column).dropRow rows row
  positive := same.positive
  frame := rfl
  texts place := by
    have crossed := (text?_drop .column (sheet.dropRow i) j place).trans
      (text?_drop .row sheet i ⟨place.row, former j place.column⟩)
    exact crossed.trans ((text?_drop .row (sheet.dropColumn j) i place).trans
      (text?_drop .column sheet j ⟨former i place.row, place.column⟩)).symm

theorem drop_add (tidy : sheet.Tidy) :
    axis.drop (sheet.after axis.add) (axis.size sheet) = sheet := by
  cases axis with
  | row =>
    have grid : (sheet.grid ++ [blankRow sheet.rows sheet.columns]).take sheet.rows = sheet.grid :=
      List.take_left' tidy.length
    have rest : (sheet.grid ++ [blankRow sheet.rows sheet.columns]).drop (sheet.rows + 1) = [] :=
      List.drop_eq_nil_of_le (by simp [tidy.length])
    simp only [Axis.drop, Axis.add, Axis.size, after, addRow, dropRow, grid, rest]
    simp
  | column =>
    refine sheet_ext rfl (List.ext_getElem ?_ fun row before inside => ?_)
    · simp [Axis.drop, Axis.add, after, addColumn, dropColumn]
    · have wide := tidy.width _ (List.getElem_mem inside)
      simp [Axis.drop, Axis.add, Axis.size, after, addColumn, dropColumn, ← wide]

theorem across_former {place other : Position} (apart : axis.line place ≠ i) :
    place = axis.across other (former i (axis.line other)) ↔
      axis.across place (shifted i (axis.line place)) = other := by
  obtain ⟨row, column⟩ := place
  obtain ⟨otherRow, otherColumn⟩ := other
  cases axis <;>
    simp only [Axis.line, Axis.across, Position.mk.injEq, former, shifted] at apart ⊢ <;> grind

theorem former_ne (i line : Nat) : former i line ≠ i := by
  grind [former]

section Storing

variable {reference expression : String} {place : Position}

theorem text?_drop_update (same : Equivalent sheet sheet)
    (read : Position.ofReference reference = .ok place) (other : Position) :
    (axis.drop (sheet.update reference expression).sheet i).text? other =
      if place = axis.across other (former i (axis.line other)) then
        ((axis.drop sheet i).text? other).map fun _ => expression
      else (axis.drop sheet i).text? other := by
  rw [text?_drop, text?_update same.tidy, ← text?_drop, Position.ofReference?, read]
  simp only [Except.toOption, Option.some.injEq]

theorem size_update (axis : Axis) (sheet : Sheet) (reference expression : String) :
    axis.size (sheet.update reference expression).sheet = axis.size sheet := by
  rw [← size_frame, frame_update, size_frame]

theorem Equivalent.drop_update {moved : String} (same : Equivalent sheet sheet)
    (read : Position.ofReference reference = .ok place) (apart : axis.line place ≠ i)
    (readMoved : Position.ofReference moved =
      .ok (axis.across place (shifted i (axis.line place))))
    (others : 1 < axis.size sheet) (inside : i < axis.size sheet) :
    Equivalent (axis.drop (sheet.update reference expression).sheet i)
      ((axis.drop sheet i).update moved expression).sheet := by
  have size := size_update axis sheet reference expression
  have stored := (same.update reference expression).drop (size ▸ others) (size ▸ inside)
  have dropped := same.drop others inside
  refine ⟨stored.tidy, dropped.tidy.update, stored.positive, ?_, fun other => ?_⟩
  · rw [frame_drop, frame_update, frame_update, frame_drop]
  · rw [text?_drop_update same read, text?_update dropped.tidy, Position.ofReference?, readMoved]
    simp only [Except.toOption, Option.some.injEq, across_former apart]

theorem moved_inside (row : place.row < sheet.rows) (column : place.column < sheet.columns)
    (apart : axis.line place ≠ i) (inside : i < axis.size sheet) :
    (axis.across place (shifted i (axis.line place))).row < (axis.drop sheet i).rows ∧
      (axis.across place (shifted i (axis.line place))).column < (axis.drop sheet i).columns := by
  cases axis <;> simp only [Axis.line, Axis.across, Axis.size, Axis.drop, dropRow, dropColumn,
    shifted] at apart inside ⊢ <;> grind

theorem perform_update_remove (expression : String) (same : Equivalent sheet sheet)
    (read : Position.ofReference reference = .ok place) (row : place.row < sheet.rows)
    (column : place.column < sheet.columns) (others : 1 < axis.size sheet)
    (inside : i < axis.size sheet) :
    sheet.perform [.update reference expression, axis.remove i] =
      .ok (axis.drop (sheet.update reference expression).sheet i).recalculate.sheet := by
  have size := size_update axis sheet reference expression
  rw [same.perform_update read row column,
    (same.update reference expression).perform_remove (size ▸ others) (size ▸ inside), perform]

theorem Equivalent.drop_lost (same : Equivalent sheet sheet)
    (read : Position.ofReference reference = .ok place) (here : axis.line place = i)
    (others : 1 < axis.size sheet) (inside : i < axis.size sheet) :
    Equivalent (axis.drop (sheet.update reference expression).sheet i) (axis.drop sheet i) := by
  have size := size_update axis sheet reference expression
  have stored := (same.update reference expression).drop (size ▸ others) (size ▸ inside)
  refine ⟨stored.tidy, (same.drop others inside).tidy, stored.positive, ?_, fun other => ?_⟩
  · rw [frame_drop, frame_update, frame_drop]
  · have elsewhere : place ≠ axis.across other (former i (axis.line other)) := by
      rintro rfl
      exact former_ne i (axis.line other) ((Axis.line_across ..).symm.trans here)
    rw [text?_drop_update same read, if_neg elsewhere]

end Storing

/-- Edits compose as if lines were counted anew after each of them: removals of two lines can change
places if the index of the later one is adapted, removing a line that was just added only
recalculates, and a text that is stored before a line goes is lost with this line, or is where its
cell has moved to. -/
theorem edits_compose (reachable : Reachable sheet) (positive : 0 < sheet.maxDepth) :
    (∀ i j, 1 < sheet.rows → i < sheet.rows → 1 < sheet.columns → j < sheet.columns →
      sheet.Interchangeable [.removeRow i, .removeColumn j] [.removeColumn j, .removeRow i]) ∧
    ∀ axis : Axis,
      (∀ i j, i ≤ j → 2 < axis.size sheet → j + 1 < axis.size sheet →
        sheet.Interchangeable [axis.remove i, axis.remove j] [axis.remove (j + 1), axis.remove i]) ∧
      sheet.Interchangeable [axis.add, axis.remove (axis.size sheet)] [.recalculate] ∧
      ∀ (reference expression : String) (place : Position) (i : Nat),
        Position.ofReference reference = .ok place → place.row < sheet.rows →
        place.column < sheet.columns → 1 < axis.size sheet → i < axis.size sheet →
        (axis.line place = i →
          sheet.Interchangeable [.update reference expression, axis.remove i] [axis.remove i]) ∧
        (axis.line place ≠ i → ∀ moved,
          Position.ofReference moved = .ok (axis.across place (shifted i (axis.line place))) →
          sheet.Interchangeable [.update reference expression, axis.remove i]
            [axis.remove i, .update moved expression, .recalculate]) := by
  have same := Equivalent.refl reachable.tidy positive
  refine ⟨fun i j rows row columns column => ?_, fun axis => ⟨fun i j ordered others inside => ?_,
    ?_, fun reference expression place i read row column others inside => ⟨fun here => ?_,
      fun apart moved readMoved => ?_⟩⟩⟩
  · exact (same.dropRow_dropColumn rows row columns column).interchangeable
      (perform_removals .row .column same rows row columns column)
      (perform_removals .column .row same columns column rows row)
  · refine (same.drop_drop ordered others inside).interchangeable
      (perform_removals axis axis same (by omega) (by omega) ?_ ?_)
      (perform_removals axis axis same (by omega) inside ?_ ?_) <;> rw [size_drop] <;> omega
  · have added : Equivalent (sheet.after axis.add) (sheet.after axis.add) :=
      .refl reachable.tidy.after (by cases axis <;> exact positive)
    have size : axis.size (sheet.after axis.add) = axis.size sheet + 1 := by cases axis <;> rfl
    have some_line : 0 < axis.size sheet := by
      cases axis with
      | row => exact reachable.tidy.rows_pos
      | column => exact reachable.tidy.columns_pos
    refine same.interchangeable ?_ same.perform_recalculate
    rw [perform_cons (by cases axis <;> rfl), added.perform_remove (by omega) (by omega),
      drop_add same.tidy, perform]
  · refine (same.drop_lost read here others inside).interchangeable
      (perform_update_remove expression same read row column others inside) ?_
    rw [same.perform_remove others inside, perform]
  · refine (same.drop_update read apart readMoved others inside).interchangeable
      (perform_update_remove expression same read row column others inside) ?_
    have removed := (same.drop others inside).recalculated
    obtain ⟨movedRow, movedColumn⟩ := moved_inside row column apart inside
    rw [same.perform_remove others inside, removed.perform_update readMoved movedRow movedColumn,
      (removed.update moved expression).perform_recalculate]

theorem edits_compose_shifted :
    let sheet := (blank "" 64 3 2).after (.update "A3" "=A1")
    sheet.Interchangeable [.removeRow 0, .removeRow 1] [.removeRow 2, .removeRow 0] ∧
      sheet.Interchangeable [.update "A3" "=A2", .removeRow 0]
        [.removeRow 0, .update "A2" "=A2", .recalculate] := by
  intro sheet
  have made : make "" 64 3 2 = .ok (blank "" 64 3 2) := rfl
  have frame : sheet.frame = (blank "" 64 3 2).frame := frame_update ..
  have depth : sheet.maxDepth = 64 := (congrArg Sheet.maxDepth frame :)
  have rows : sheet.rows = 3 := (congrArg Sheet.rows frame :)
  have columns : sheet.columns = 2 := (congrArg Sheet.columns frame :)
  have reachable : Reachable sheet := .after _ _ (.made _ _ _ _ _ made)
  obtain ⟨_, lines⟩ := edits_compose reachable (by rw [depth]; decide)
  obtain ⟨removals, _, storing⟩ := lines .row
  refine ⟨removals 0 1 (by decide) ?_ ?_, ?_⟩
  · rw [Axis.size, rows]; decide
  · rw [Axis.size, rows]; decide
  · refine (storing "A3" "=A2" ⟨2, 0⟩ 0 (by cbv) ?_ ?_ ?_ ?_).2 (by decide) "A2" (by cbv)
    · rw [rows]; decide
    · rw [columns]; decide
    · rw [Axis.size, rows]; decide
    · rw [Axis.size, rows]; decide

end Composition

end Sheet
end FormulaGrid
