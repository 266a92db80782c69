import FormulaGrid.Proofs.Sheet.Recalculation

/-! What the log tells about a recalculation: one event for each formula, in the order of the cells,
which says what became of the formula, and last the numbers of cells and of errors. -/
namespace FormulaGrid.Sheet

open FormulaGrid.Data

/-- Whether an event tells what became of a cell's formula: that it has a value, or the error that
the cell shows now. -/
structure Reports (sheet : Sheet) (cell : Cell) (event : Event) : Prop where
  subject : lookup "cell" event.context = some (.text cell.reference)
  place : lookup "sheet" event.context = some (.text sheet.name)
  source : lookup "expression" event.context = some (.text cell.expression)
  computed : cell.error = none → event.level = .info ∧ event.type = .cellUpdated
  failed : ∀ message, cell.error = some message →
    event.level = .error ∧ event.message = message ∧
    ∃ fault, sheet.outcome cell.reference cell.expression = .ok (.error fault) ∧
      event.errorCode = some fault.code ∧
      event.type = if fault.code = "cyclic_reference" then .cycleDetected else .cellError

def failures (events : List Event) : List Event :=
  events.filter fun event => event.level = .error

def complaint (event : Event) : String × String :=
  ((asText? (lookup "cell" event.context)).getD "", event.message)

section Telling

variable {sheet : Sheet} {cell : Cell} {event : Event} {reference text : String}

theorem lookup_computedEvent (sheet : Sheet) (reference text : String) (outcome : Outcome) :
    let context := (sheet.computedEvent reference text outcome).context
    lookup "cell" context = some (.text reference) ∧
      lookup "sheet" context = some (.text sheet.name) ∧
      lookup "expression" context = some (.text text) := by
  cases outcome <;> simp [computedEvent, Event.cellContext, merge, put, lookup]

theorem reports_computedEvent {outcome : Outcome}
    (valued : sheet.outcome cell.reference cell.expression = .ok outcome) :
    Reports sheet (cell.computed outcome)
      (sheet.computedEvent cell.reference cell.expression outcome) := by
  obtain ⟨subject, place, source⟩ := lookup_computedEvent sheet cell.reference cell.expression outcome
  cases outcome with
  | ok value => exact ⟨subject, place, source, fun _ => ⟨rfl, rfl⟩, nofun⟩
  | error fault =>
    refine ⟨subject, place, source, nofun, fun message failed => ?_⟩
    cases failed
    exact ⟨rfl, rfl, fault, valued, rfl, rfl⟩

theorem attributed_computedEvent (sheet : Sheet) (reference text : String) (outcome : Outcome) :
    (sheet.computedEvent reference text outcome).attributed =
      sheet.computedEvent reference text outcome := by
  have subject := (lookup_computedEvent sheet reference text outcome).1
  have about : (sheet.computedEvent reference text outcome).type.subject = "cell" := by
    cases outcome with
    | ok value => rfl
    | error fault =>
      simp only [computedEvent]
      split <;> rfl
  rw [Event.attributed, about, subject]
  rfl

/-- The events of a cell: one that reports what the cell settles on if it holds a formula, and none
otherwise. -/
theorem eventsAt_own (tidy : sheet.Tidy) (positive : 0 < sheet.maxDepth)
    (member : cell ∈ sheet.cells) :
    (cell.isFormula = true ∧ ∃ event, sheet.eventsAt cell.position = [event] ∧
        Reports (sheet.mapCells sheet.settle) (sheet.settle cell) event ∧
        event.attributed = event) ∨
      (cell.isFormula = false ∧ sheet.eventsAt cell.position = []) := by
  obtain ⟨position, stored⟩ := mem_cells_iff.1 member
  have text : sheet.text? cell.position = some cell.expression := by
    rw [(tidy.cells position cell stored).placed, text?, stored]
    rfl
  cases formula : cell.isFormula with
  | false =>
    have plain : isFormulaText cell.expression = false := formula
    exact .inr ⟨rfl, by simp only [eventsAt, text, plain]; rfl⟩
  | true =>
    have starts : isFormulaText cell.expression = true := formula
    obtain ⟨outcome, valued⟩ := outcome_ok positive cell.reference cell.expression
    have settled : sheet.settle cell = cell.computed outcome := by
      rw [settle, if_pos formula, valued]
    have final : (sheet.mapCells sheet.settle).outcome cell.reference cell.expression =
        .ok outcome := by
      rw [← valued]
      have after : (sheet.mapCells sheet.settle).Tidy := tidy.mapCells fun _ _ => Tidy.settled
      exact (outcome_eq tidy after (sameTexts_settle sheet) _ _).symm
    refine .inl ⟨rfl, sheet.computedEvent cell.reference cell.expression outcome, ?_, ?_,
      attributed_computedEvent ..⟩
    · have reference : cell.position.reference = cell.reference := rfl
      simp only [eventsAt, text, starts, if_true, reference, valued]
    · rw [settled]
      have told := reports_computedEvent final
      cases outcome <;> exact told

end Telling

section Counting

variable {sheet : Sheet}

theorem forall₂_reports {final : Sheet} {change : Cell → Cell} {told : Cell → List Event}
    {cells : List Cell} (kept : ∀ cell, (change cell).isFormula = cell.isFormula)
    (own : ∀ cell ∈ cells,
      (cell.isFormula = true ∧ ∃ event, told cell = [event] ∧ Reports final (change cell) event) ∨
      (cell.isFormula = false ∧ told cell = [])) :
    List.Forall₂ (Reports final) ((cells.map change).filter Cell.isFormula) (cells.flatMap told) := by
  induction cells with
  | nil => exact .nil
  | cons cell cells ih =>
    obtain ⟨first, others⟩ := List.forall_mem_cons.1 own
    rw [List.map_cons, List.filter_cons, kept, List.flatMap_cons]
    rcases first with ⟨formula, event, single, reports⟩ | ⟨plain, silent⟩
    · rw [if_pos formula, single]
      exact .cons reports (ih others)
    · rw [plain, silent]
      exact ih others

theorem complaints_eq {cells : List Cell} {told : List Event}
    (reported : List.Forall₂ (Reports sheet) cells told) :
    (cells.filterMap fun cell => cell.error.map (cell.reference, ·)) =
      (failures told).map complaint := by
  induction reported with
  | nil => rfl
  | @cons cell event cells told reports _ ih =>
    cases error : cell.error with
    | none =>
      have level := (reports.computed error).1
      rw [List.filterMap_cons_none (by rw [error]; rfl), ih, failures, failures,
        List.filter_cons_of_neg (by simp [level])]
    | some message =>
      obtain ⟨level, same, _⟩ := reports.failed message error
      have about : complaint event = (cell.reference, message) := by
        rw [complaint, reports.subject, same]
        rfl
      rw [List.filterMap_cons_some (by rw [error]; rfl), ih, failures, failures,
        List.filter_cons_of_pos (by simp [level]), List.map_cons, about]

theorem Tidy.errors_eq (tidy : sheet.Tidy) :
    sheet.errors = (sheet.cells.filter Cell.isFormula).filterMap
      fun cell => cell.error.map (cell.reference, ·) := by
  rw [List.filterMap_filter, errors]
  refine List.filterMap_congr fun cell member => ?_
  obtain ⟨position, stored⟩ := mem_cells_iff.1 member
  split
  · rfl
  next plain =>
    rw [((tidy.cells position cell stored).shown (by simpa using plain)).2]
    rfl

theorem Tidy.countP_hasText (tidy : sheet.Tidy) :
    (sheet.cells.map Cell.position).countP sheet.hasText =
      (sheet.cells.filter (·.expression ≠ "")).length := by
  rw [List.countP_map, ← List.countP_eq_length_filter]
  refine List.countP_congr fun cell member => ?_
  obtain ⟨position, stored⟩ := mem_cells_iff.1 member
  have text : sheet.text? cell.position = some cell.expression := by
    rw [(tidy.cells position cell stored).placed, text?, stored]
    rfl
  simp [hasText, text]

end Counting

section Recalculations

variable {sheet : Sheet}

def told (sheet : Sheet) : List Event :=
  sheet.cells.flatMap fun cell => sheet.eventsAt cell.position

theorem Tidy.reports_told (tidy : sheet.Tidy) (positive : 0 < sheet.maxDepth) :
    List.Forall₂ (Reports (sheet.mapCells sheet.settle))
      ((sheet.mapCells sheet.settle).cells.filter Cell.isFormula) sheet.told := by
  have cells : (sheet.mapCells sheet.settle).cells = sheet.cells.map sheet.settle :=
    List.map_flatten.symm
  rw [cells]
  refine forall₂_reports (fun cell => congrArg isFormulaText (expression_settle sheet cell))
    fun cell member => ?_
  rcases eventsAt_own tidy positive member with ⟨formula, event, single, reports, _⟩ | plain
  · exact .inl ⟨formula, event, single, reports⟩
  · exact .inr plain

theorem Tidy.attributed_told (tidy : sheet.Tidy) (positive : 0 < sheet.maxDepth) {event : Event}
    (member : event ∈ sheet.told) : event.attributed = event := by
  obtain ⟨cell, held, inside⟩ := List.mem_flatMap.1 member
  rcases eventsAt_own tidy positive held with ⟨_, own, single, _, attributed⟩ | ⟨_, silent⟩
  · rw [single] at inside
    rwa [List.mem_singleton.1 inside]
  · rw [silent] at inside
    cases inside

theorem attributed_recalculatedEvent (sheet : Sheet) (count : Nat) :
    (sheet.recalculatedEvent count).attributed = sheet.recalculatedEvent count := by
  simp [Event.attributed, recalculatedEvent, EventType.subject, lookup]

theorem failures_append_recalculatedEvent (events : List Event) (sheet : Sheet) (count : Nat) :
    failures (events ++ [sheet.recalculatedEvent count]) = failures events := by
  have quiet : (sheet.recalculatedEvent count).level ≠ .error := by
    simp only [recalculatedEvent]
    split <;> decide
  rw [failures, List.filter_append, List.filter_cons_of_neg (by simpa using quiet), List.filter_nil,
    List.append_nil, failures]

/-- A recalculation logs what it leaves: an event for each formula in the order of the cells, which
tells its value or its error, nothing about other cells, and at last how many texts there are and
how many errors were told. The errors told are those that cells show then. -/
theorem recalculate_reported (reachable : Reachable sheet)
    (positive : 0 < sheet.maxDepth) :
    let final := sheet.recalculate.sheet
    let failed := failures sheet.recalculate.events
    let count := (sheet.cells.filter (·.expression ≠ "")).length
    sheet.recalculate.result = .ok count ∧
    (∃ told summary, sheet.recalculate.events = told ++ [summary] ∧
      List.Forall₂ (Reports final) (final.cells.filter Cell.isFormula) told ∧
      summary.type = .sheetRecalculated ∧
      summary.level = (if 0 < failed.length then .warning else .info) ∧
      summary.context = [("sheet", .text sheet.name), ("cells", .integer count),
        ("errors", .integer failed.length)]) ∧
    final.errors = failed.map complaint ∧
    ∀ event ∈ sheet.recalculate.events, event.attributed = event := by
  have tidy := reachable.tidy
  have change := recalculate_change tidy positive
  have told : (sheet.cells.map Cell.position).flatMap sheet.eventsAt = sheet.told :=
    List.flatMap_map ..
  dsimp only at change
  rw [tidy.countP_hasText, told] at change
  have reported := tidy.reports_told positive
  have after : (sheet.mapCells sheet.settle).Tidy := tidy.mapCells fun _ _ => Tidy.settled
  have errors : (sheet.mapCells sheet.settle).errors = (failures sheet.told).map complaint := by
    rw [after.errors_eq, complaints_eq reported]
  have number := congrArg List.length errors
  rw [List.length_map] at number
  rw [change]
  dsimp only
  rw [failures_append_recalculatedEvent]
  refine ⟨rfl, ⟨sheet.told, _, rfl, reported, rfl, ?_, ?_⟩, errors, ?_⟩
  · rw [recalculatedEvent, number]
    cases (failures sheet.told).length <;> rfl
  · rw [recalculatedEvent, number]
    rfl
  · exact List.forall_mem_append.2 ⟨fun event => tidy.attributed_told positive,
      List.forall_mem_singleton.2 (attributed_recalculatedEvent _ _)⟩

theorem recalculate_reported_cyclic :
    let sheet := (blank "" 64 1 2).after (.update "A1" "=A1")
    sheet.recalculate.result = .ok 1 ∧
      sheet.recalculate.sheet.errors = (failures sheet.recalculate.events).map complaint := by
  intro sheet
  let fault : Fault := .formula ⟨.cycle ["A1", "A1"], some 1⟩
  have made : make "" 64 1 2 = .ok (blank "" 64 1 2) := rfl
  have reachable : Reachable sheet := .after _ _ (.made _ _ _ _ _ made)
  have found : (blank "" 64 1 2).cell "A1" = .ok (.blank 0 0) := by cbv
  have formula : isFormulaText "=A1" = true := by cbv
  have looped : ((blank "" 64 1 2).modifyAt (Cell.blank 0 0).position
      (·.withText "=A1")).outcome "A1" "=A1" = .ok (.error fault) := by cbv
  have held : sheet = ⟨"", 64, 1, 2, [[⟨0, 0, "=A1", .empty, some fault.message⟩, .blank 0 1]]⟩ := by
    simp only [sheet, after, update, found, updateAt, formula, if_true, looped]
    rfl
  obtain ⟨counted, _, errors, _⟩ := recalculate_reported reachable (by rw [held]; decide)
  refine ⟨counted.trans ?_, errors⟩
  rw [held]
  rfl

end Recalculations

end FormulaGrid.Sheet
