import FormulaGrid.Evaluation.Basic
import FormulaGrid.Formula.Check
import FormulaGrid.Log.Event
import FormulaGrid.Sheet.Basic

/-! Changing a sheet's texts and computing its formulas. An edited cell is computed at once, other
cells only when the sheet is recalculated, row by row. Each computation is an event. A change that
fails keeps what it had done. -/
namespace FormulaGrid.Sheet

/-- What a change of a sheet comes to: its result, the sheet after it, and its events in order. -/
structure Change (α : Type) where
  result : Except SheetError α
  sheet : Sheet
  events : List Event

namespace Change

variable {α β : Type}

def of (result : Except SheetError α) (sheet : Sheet) : Change α :=
  ⟨result, sheet, []⟩

def andThen (first : Change α) (next : α → Sheet → Change β) : Change β :=
  match first.result with
  | .error error => ⟨.error error, first.sheet, first.events⟩
  | .ok value =>
    let second := next value first.sheet
    { second with events := first.events ++ second.events }

end Change

/-- What a formula in a cell comes to: it is checked first, and then evaluated from the cell that
`reference` names. -/
def outcome (sheet : Sheet) (reference expression : String) : Except SheetError Outcome :=
  match Formula.validate expression with
  | .error fault => .ok (.error fault)
  | .ok _ =>
    match Chain.start? (some reference) sheet.maxDepth with
    | none => .error (.invalidDepth sheet.maxDepth)
    | some chain => .ok (Evaluation.evaluate (some sheet.accessor) chain expression)

def computedEvent (sheet : Sheet) (reference expression : String) : Outcome → Event
  | .ok _ => {
      level := .info
      type := .cellUpdated
      context := Event.cellContext (.text reference) (some (.text sheet.name))
        (some (.text expression)) []
      message := reference ++ " evaluated"
      errorCode := none }
  | .error fault => {
      level := .error
      type := if fault.code = "cyclic_reference" then .cycleDetected else .cellError
      context := Event.cellContext (.text reference) (some (.text sheet.name))
        (some (.text expression)) [("position", .integer fault.position)]
      message := fault.message
      errorCode := some fault.code }

def updateAt (sheet : Sheet) (position : Position) (reference expression : String) :
    Change Outcome :=
  let edited := sheet.modifyAt position (·.withText expression)
  if isFormulaText expression then
    match edited.outcome reference expression with
    | .error error => .of (.error error) edited
    | .ok outcome => {
        result := .ok outcome
        sheet := edited.modifyAt position (·.computed outcome)
        events := [edited.computedEvent reference expression outcome] }
  else
    .of (.ok (.ok (literalValue expression))) (edited.modifyAt position Cell.literal)

def update (sheet : Sheet) (reference expression : String) : Change Outcome :=
  match sheet.cell reference with
  | .error error => .of (.error error) sheet
  | .ok cell => sheet.updateAt cell.position reference expression

def recomputeAt : List Position → Sheet → Change Nat
  | [], sheet => .of (.ok 0) sheet
  | position :: positions, sheet =>
    match sheet.cellAt? position with
    | none => recomputeAt positions sheet
    | some cell =>
      if cell.expression = "" then recomputeAt positions sheet
      else
        (sheet.updateAt position cell.reference cell.expression).andThen fun _ updated =>
          (recomputeAt positions updated).andThen fun count final => .of (.ok (count + 1)) final

def recalculatedEvent (sheet : Sheet) (count : Nat) : Event :=
  let failed := sheet.errors.length
  let message := s!"Recalculated {count} cell(s)"
  {
    level := if failed = 0 then .info else .warning
    type := .sheetRecalculated
    context := [("sheet", .text sheet.name), ("cells", .integer count), ("errors", .integer failed)]
    message := if failed = 0 then message else message ++ s!", {failed} in error"
    errorCode := if failed = 0 then none else some "cells_in_error" }

def recalculate (sheet : Sheet) : Change Nat :=
  (recomputeAt (sheet.cells.map Cell.position) sheet).andThen fun count final =>
    ⟨.ok count, final, [final.recalculatedEvent count]⟩

def recalculateOnly (sheet : Sheet) : Change Unit :=
  sheet.recalculate.andThen fun _ final => .of (.ok ()) final

/-- Removes a row, of which there must be another, and recalculates. References in formulas stay as
they are. -/
def removeRow (sheet : Sheet) (index : Int) : Change Unit :=
  if sheet.rows ≤ 1 then .of (.error .lastRow) sheet
  else if index < 0 ∨ sheet.rows ≤ index then .of (.error (.noRow index)) sheet
  else (sheet.dropRow index.toNat).recalculateOnly

/-- Removes a column, of which there must be another, and recalculates. References in formulas stay
as they are. -/
def removeColumn (sheet : Sheet) (index : Int) : Change Unit :=
  if sheet.columns ≤ 1 then .of (.error .lastColumn) sheet
  else if index < 0 ∨ sheet.columns ≤ index then .of (.error (.noColumn index)) sheet
  else (sheet.dropColumn index.toNat).recalculateOnly

end FormulaGrid.Sheet
