import FormulaGrid.Proofs.Sheet.Edits

/-! What a failing operation leaves of a sheet. Operations refuse their arguments before they touch
the sheet; the only other way to fail is to come to a formula while the sheet's chains must not hold
a single reference. Then nothing is computed at all, since a formula that is refused already shows
why, and the sheet stays as the operation had left it before it began to compute. -/
namespace FormulaGrid

open FormulaGrid.Failure

/-- Whether a cell whose formula is refused shows why. -/
def Cell.ShowsRefusal (cell : Cell) : Prop :=
  ∀ fault, cell.isFormula → Formula.validate cell.expression = .error fault →
    cell.value = .empty ∧ cell.error = some fault.message

namespace Sheet

/-- The sheet that an operation leaves when it comes to a formula that cannot be evaluated. -/
def interrupted (sheet : Sheet) : Operation → Sheet
  | .update reference expression =>
    match sheet.cell? reference with
    | none => sheet
    | some cell => sheet.modifyAt cell.position (·.withText expression)
  | .removeRow index => sheet.dropRow index.toNat
  | .removeColumn index => sheet.dropColumn index.toNat
  | .recalculate | .clear | .addRow | .addColumn => sheet

section Failing

variable {sheet : Sheet} {position : Position} {positions : List Position}
  {reference expression : String} {error : SheetError}

theorem outcome_refused {fault : Fault} (refused : Formula.validate expression = .error fault) :
    sheet.outcome reference expression = .ok (.error fault) := by
  rw [outcome, refused]

theorem outcome_shallow {value : Value} (shallow : sheet.maxDepth < 1)
    (valid : Formula.validate expression = .ok value) :
    sheet.outcome reference expression = .error (.invalidDepth sheet.maxDepth) := by
  rw [outcome, valid, Chain.start?, dif_neg (by omega)]

theorem updateAt_error (failed : (sheet.updateAt position reference expression).result =
    .error error) :
    sheet.maxDepth < 1 ∧ error = .invalidDepth sheet.maxDepth ∧
      (sheet.updateAt position reference expression).sheet =
        sheet.modifyAt position (·.withText expression) := by
  generalize edited : sheet.modifyAt position (·.withText expression) = other
  have depth : other.maxDepth = sheet.maxDepth := by rw [← edited]; rfl
  have shallow : sheet.maxDepth < 1 := by
    by_contra positive
    obtain ⟨outcome, done⟩ : ∃ outcome, other.outcome reference expression = .ok outcome :=
      outcome_ok (by omega) reference expression
    simp only [updateAt, edited, done] at failed
    split at failed <;> cases failed
  cases valid : Formula.validate expression with
  | error fault =>
    simp only [updateAt, edited, outcome_refused valid] at failed
    split at failed <;> cases failed
  | ok value =>
    have raised : other.outcome reference expression = .error (.invalidDepth other.maxDepth) :=
      outcome_shallow (depth ▸ shallow) valid
    simp only [updateAt, edited, raised] at failed ⊢
    split at failed
    next formula =>
      cases failed
      rw [if_pos formula]
      exact ⟨shallow, by rw [depth], rfl⟩
    next => cases failed

theorem recomputeAt_error (failed : (recomputeAt positions sheet).result = .error error) :
    sheet.maxDepth < 1 ∧ error = .invalidDepth sheet.maxDepth := by
  induction positions generalizing sheet with
  | nil => cases failed
  | cons position positions ih =>
    rcases recomputeAt_step sheet position positions with
      ⟨_, same⟩ | ⟨cell, _, _, ⟨other, updated, same, _⟩ | ⟨_, _, same, _⟩⟩
    · rw [same] at failed
      exact ih failed
    · rw [same] at failed
      cases failed
      obtain ⟨shallow, cause, _⟩ := updateAt_error updated
      exact ⟨shallow, cause⟩
    · rw [same, map_eq_error] at failed
      have depth := congrArg maxDepth
        (frame_updateAt sheet position cell.reference cell.expression)
      change (sheet.updateAt position cell.reference cell.expression).sheet.maxDepth =
        sheet.maxDepth at depth
      rw [← depth]
      exact ih failed

end Failing

section Refusals

variable {sheet : Sheet} {position place : Position} {positions : List Position}
  {reference expression : String} {cell : Cell}

def ShowsRefusal (sheet : Sheet) (place : Position) : Prop :=
  ∀ cell, sheet.cellAt? place = some cell → cell.ShowsRefusal

theorem showsRefusal_empty (empty : cell.expression = "") : cell.ShowsRefusal := by
  intro fault formula
  rw [Cell.isFormula, empty] at formula
  cases formula

theorem showsRefusal_updateAt (sheet : Sheet) (position : Position) (reference expression : String)
    (shown : place = position ∨ sheet.ShowsRefusal place) :
    (sheet.updateAt position reference expression).sheet.ShowsRefusal place := by
  obtain ⟨change, same, changed⟩ := updateAt_sheet sheet position reference expression
  intro cell stored
  by_cases here : place = position
  · subst here
    intro fault formula refused
    have text : cell.expression = expression := by
      rw [same, cellAt?_modifyAt, if_pos rfl] at stored
      obtain ⟨former, _, rfl⟩ := Option.map_eq_some_iff.1 stored
      exact (changed former).2.1
    rw [Cell.isFormula, text] at formula
    rw [text] at refused
    have valued : (sheet.modifyAt place (·.withText expression)).outcome reference expression =
        .ok (.error fault) := outcome_refused refused
    simp only [updateAt, if_pos formula, valued, modifyAt_modifyAt] at stored
    rw [cellAt?_modifyAt, if_pos rfl] at stored
    obtain ⟨former, _, rfl⟩ := Option.map_eq_some_iff.1 stored
    exact ⟨rfl, rfl⟩
  · rw [same, cellAt?_modifyAt, if_neg here] at stored
    exact shown.resolve_left here cell stored

theorem showsRefusal_recomputeAt {count : Nat}
    (done : (recomputeAt positions sheet).result = .ok count)
    (shown : place ∈ positions ∨ sheet.ShowsRefusal place) :
    (recomputeAt positions sheet).sheet.ShowsRefusal place := by
  induction positions generalizing sheet count with
  | nil => exact shown.resolve_left List.not_mem_nil
  | cons position positions ih =>
    rcases recomputeAt_step sheet position positions with
      ⟨silent, same⟩ | ⟨cell, _, _, ⟨_, _, failed, _⟩ | ⟨_, _, result, same⟩⟩
    · rw [same] at done ⊢
      have quiet : sheet.ShowsRefusal position := fun cell stored =>
        showsRefusal_empty (silent cell stored)
      refine ih done ?_
      rcases shown with member | shown
      · rcases List.mem_cons.1 member with rfl | later
        · exact .inr quiet
        · exact .inl later
      · exact .inr shown
    · rw [failed] at done
      cases done
    · rw [result] at done
      obtain ⟨number, rest, _⟩ := map_eq_ok.1 done
      rw [same]
      refine ih rest ?_
      by_cases here : place = position
      · exact .inr (showsRefusal_updateAt _ _ _ _ (.inl here))
      · exact shown.imp (fun member => (List.mem_cons.1 member).resolve_left here)
          fun before => showsRefusal_updateAt _ _ _ _ (.inr before)

theorem showsRefusal_recalculate {count : Nat} (tidy : sheet.Tidy)
    (done : sheet.recalculate.result = .ok count) :
    sheet.recalculate.sheet.ShowsRefusal place := by
  rw [recalculate_result] at done
  rw [recalculate_sheet]
  refine showsRefusal_recomputeAt done ?_
  cases stored : sheet.cellAt? place with
  | none => exact .inr fun cell found => by rw [stored] at found; cases found
  | some cell =>
    have member := List.mem_map_of_mem (f := Cell.position) (mem_cells_iff.2 ⟨place, stored⟩)
    rw [(tidy.cells place cell stored).placed] at member
    exact .inl member

theorem showsRefusal_recalculate_kept (shown : ∀ place, sheet.ShowsRefusal place) :
    ∀ place, sheet.recalculate.sheet.ShowsRefusal place := by
  rw [recalculate_sheet]
  exact recomputeAt_induction (fun sheet => ∀ place, sheet.ShowsRefusal place) _ shown
    fun sheet position cell before _ _ place =>
      showsRefusal_updateAt sheet position _ _ (.inr (before place))

theorem showsRefusal_dropRow (shown : ∀ place, sheet.ShowsRefusal place) (index : Nat)
    (place : Position) : (sheet.dropRow index).ShowsRefusal place := by
  intro cell stored
  rw [cellAt?_dropRow] at stored
  split at stored
  · exact shown place cell stored
  · obtain ⟨former, found, rfl⟩ := Option.map_eq_some_iff.1 stored
    exact shown _ former found

theorem showsRefusal_dropColumn (shown : ∀ place, sheet.ShowsRefusal place) (index : Nat)
    (place : Position) : (sheet.dropColumn index).ShowsRefusal place := by
  intro cell stored
  rw [cellAt?_dropColumn] at stored
  split at stored
  · exact shown place cell stored
  · obtain ⟨former, found, rfl⟩ := Option.map_eq_some_iff.1 stored
    exact shown _ former found

theorem showsRefusal_after (shown : ∀ place, sheet.ShowsRefusal place) (operation : Operation)
    (place : Position) : (sheet.after operation).ShowsRefusal place := by
  cases operation with
  | update reference expression =>
    rw [after]
    rcases update_cases sheet reference expression with ⟨error, same, _⟩ | ⟨cell, _, same⟩
    · rw [same]
      exact shown place
    · rw [same]
      exact showsRefusal_updateAt _ _ _ _ (.inr (shown place))
  | recalculate => exact showsRefusal_recalculate_kept shown place
  | clear =>
    intro cell stored
    have stored : (sheet.mapCells Cell.cleared).cellAt? place = some cell := stored
    rw [cellAt?_mapCells] at stored
    obtain ⟨former, _, rfl⟩ := Option.map_eq_some_iff.1 stored
    exact showsRefusal_empty rfl
  | addRow =>
    intro cell stored
    rcases cellAt?_addRow stored with before | ⟨_, rfl⟩
    · exact shown place cell before
    · exact showsRefusal_empty rfl
  | addColumn =>
    intro cell stored
    rcases cellAt?_addColumn stored with before | ⟨_, _, _, rfl⟩
    · exact shown place cell before
    · exact showsRefusal_empty rfl
  | removeRow index =>
    rw [after]
    rcases removeRow_cases sheet index with ⟨error, same, _⟩ | ⟨_, same⟩
    · rw [same]
      exact shown place
    · rw [same, recalculateOnly_sheet]
      exact showsRefusal_recalculate_kept (showsRefusal_dropRow shown _) place
  | removeColumn index =>
    rw [after]
    rcases removeColumn_cases sheet index with ⟨error, same, _⟩ | ⟨_, same⟩
    · rw [same]
      exact shown place
    · rw [same, recalculateOnly_sheet]
      exact showsRefusal_recalculate_kept (showsRefusal_dropColumn shown _) place

theorem Reachable.showsRefusal (reachable : Reachable sheet) (place : Position) :
    sheet.ShowsRefusal place := by
  induction reachable generalizing place with
  | made name maxDepth rows columns sheet made =>
    unfold make at made
    split at made <;> cases made
    intro cell stored
    rw [cellAt?_blank] at stored
    split at stored <;> cases stored
    exact showsRefusal_empty rfl
  | loaded content maxDepth sheet loaded =>
    obtain ⟨stored, count, tidy, done, rfl⟩ := ofData_result_ok loaded
    exact showsRefusal_recalculate tidy done
  | after sheet operation _ shown => exact showsRefusal_after shown operation place

end Refusals

section Operations

variable {sheet : Sheet} {error : SheetError}

/-- A sheet whose chains must not hold a single reference computes nothing. -/
theorem recalculate_shallow (tidy : sheet.Tidy) (shallow : sheet.maxDepth < 1)
    (shown : ∀ place, sheet.ShowsRefusal place) : sheet.recalculate.sheet = sheet := by
  rw [recalculate_sheet]
  refine recomputeAt_induction (· = sheet) _ rfl fun other position cell same stored _ => ?_
  subst same
  have edited := modifyAt_withText stored
  unfold updateAt
  rw [edited]
  dsimp only
  split
  next formula =>
    cases valid : Formula.validate cell.expression with
    | ok value =>
      rw [outcome_shallow shallow valid]
      rfl
    | error fault =>
      rw [outcome_refused valid]
      refine modifyAt_eq_self fun former found => ?_
      rw [stored] at found
      cases found
      obtain ⟨value, error⟩ := shown position cell stored fault formula valid
      rw [Cell.computed, ← value, ← error]
  next plain =>
    refine modifyAt_eq_self fun former found => ?_
    rw [stored] at found
    cases found
    exact (tidy.cells position cell stored).literal (Bool.eq_false_iff.2 plain)

theorem recalculate_error (tidy : sheet.Tidy) (shown : ∀ place, sheet.ShowsRefusal place)
    (failed : sheet.recalculate.result = .error error) :
    sheet.maxDepth < 1 ∧ error = .invalidDepth sheet.maxDepth ∧
      sheet.recalculate.sheet = sheet := by
  rw [recalculate_result] at failed
  obtain ⟨shallow, cause⟩ := recomputeAt_error failed
  exact ⟨shallow, cause, recalculate_shallow tidy shallow shown⟩

theorem recalculateOnly_error (tidy : sheet.Tidy) (shown : ∀ place, sheet.ShowsRefusal place)
    (failed : sheet.recalculateOnly.result = .error error) :
    sheet.maxDepth < 1 ∧ error = .invalidDepth sheet.maxDepth ∧
      sheet.recalculateOnly.sheet = sheet := by
  rw [recalculateOnly_result, map_eq_error] at failed
  rw [recalculateOnly_sheet]
  exact recalculate_error tidy shown failed

theorem refuses_error {α : Type} {change : Change α} (refuses : sheet.Refuses change)
    (failed : change.result.map (fun _ => ()) = .error error) :
    error ≠ .invalidDepth sheet.maxDepth ∧ change.sheet = sheet := by
  obtain ⟨other, rfl, differs⟩ := refuses
  cases failed
  exact ⟨differs, rfl⟩

/-- An operation that fails has refused its arguments, or it was interrupted. -/
theorem after_cases (reachable : Reachable sheet) (operation : Operation)
    (failed : sheet.result operation = .error error) :
    error ≠ .invalidDepth sheet.maxDepth ∧ sheet.after operation = sheet ∨
      sheet.maxDepth < 1 ∧ error = .invalidDepth sheet.maxDepth ∧
        sheet.after operation = sheet.interrupted operation := by
  have tidy := reachable.tidy
  have shown := reachable.showsRefusal
  cases operation with
  | update reference expression =>
    rw [result] at failed
    rcases update_cases sheet reference expression with refuses | ⟨cell, found, same⟩
    · exact .inl (refuses_error refuses failed)
    · rw [after, interrupted, found]
      rw [same] at failed ⊢
      exact .inr (updateAt_error (map_eq_error.1 failed))
  | recalculate => exact .inr (recalculate_error tidy shown (map_eq_error.1 failed))
  | clear | addRow | addColumn => cases failed
  | removeRow index =>
    rw [result] at failed
    rcases removeRow_cases sheet index with refuses | ⟨⟨others, inside⟩, same⟩
    · exact .inl (refuses_error refuses (map_eq_error.2 failed))
    · rw [after, interrupted]
      rw [same] at failed ⊢
      exact .inr (recalculateOnly_error (tidy.dropRow others inside)
        (showsRefusal_dropRow shown _) failed)
  | removeColumn index =>
    rw [result] at failed
    rcases removeColumn_cases sheet index with refuses | ⟨⟨others, inside⟩, same⟩
    · exact .inl (refuses_error refuses (map_eq_error.2 failed))
    · rw [after, interrupted]
      rw [same] at failed ⊢
      exact .inr (recalculateOnly_error (tidy.dropColumn others inside)
        (showsRefusal_dropColumn shown _) failed)

/-- A failing operation leaves a sheet as it was, unless the sheet's chains must not hold a single
reference; then an update leaves the text, and a removal leaves the line dropped. -/
theorem after_failed (sheet : Sheet) (operation : Operation) (error : SheetError)
    (reachable : Reachable sheet) (failed : sheet.result operation = .error error) :
    (0 < sheet.maxDepth ∨ operation = .recalculate → sheet.after operation = sheet) ∧
      sheet.after operation =
        if error = .invalidDepth sheet.maxDepth then sheet.interrupted operation else sheet := by
  rcases after_cases reachable operation failed with ⟨differs, same⟩ | ⟨shallow, cause, same⟩
  · rw [if_neg differs]
    exact ⟨fun _ => same, same⟩
  · rw [if_pos cause]
    refine ⟨?_, same⟩
    rintro (positive | rfl)
    · omega
    · exact same

theorem after_failed_twice :
    let sheet := blank "" 64 1 1
    let shallow := blank "" 0 1 1
    (sheet.result (.removeRow 0) = .error .lastRow ∧ sheet.after (.removeRow 0) = sheet) ∧
      shallow.result (.update "A1" "=1") = .error (.invalidDepth 0) ∧
        shallow.after (.update "A1" "=1") = shallow.modifyAt ⟨0, 0⟩ (·.withText "=1") := by
  intro sheet shallow
  have made (maxDepth : Int) : Reachable (blank "" maxDepth 1 1) := .made "" maxDepth 1 1 _ rfl
  have refused : sheet.result (.removeRow 0) = .error .lastRow := by cbv
  have failed : shallow.result (.update "A1" "=1") = .error (.invalidDepth 0) := by cbv
  have left : shallow.interrupted (.update "A1" "=1") =
      shallow.modifyAt ⟨0, 0⟩ (·.withText "=1") := by cbv
  exact ⟨⟨refused, (after_failed sheet _ _ (made 64) refused).1 (.inl (by decide))⟩, failed,
    (after_failed shallow _ _ (made 0) failed).2.trans ((if_pos rfl).trans left)⟩

/-- The text of an update that fails stays in its cell. -/
theorem update_interrupted :
    ¬ ∀ sheet operation error, Reachable sheet → sheet.result operation = .error error →
      sheet.after operation = sheet := by
  intro unchanged
  have made : make "New sheet" 0 1 1 = .ok (blank "New sheet" 0 1 1) := rfl
  have failed : (blank "New sheet" 0 1 1).result (.update "A1" "=1") =
      .error (.invalidDepth 0) := by cbv
  have same := unchanged _ _ _ (.made _ _ _ _ _ made) failed
  have former : (blank "New sheet" 0 1 1).text? ⟨0, 0⟩ = some "" := by cbv
  have text : ((blank "New sheet" 0 1 1).after (.update "A1" "=1")).text? ⟨0, 0⟩ = some "=1" := by
    cbv
  rw [same, former] at text
  exact absurd (Option.some.inj text) (by decide)

end Operations

end Sheet
end FormulaGrid
