import FormulaGrid.Proofs.Agreement
import FormulaGrid.Proofs.Respelling
import FormulaGrid.Proofs.Sheet.Recalculation

/-! A cell edited under different spellings of its reference. They lead to the same cell, and what
this cell then shows differs in the message of a cycle only, which tells the spelling. -/
namespace FormulaGrid.Sheet

open FormulaGrid.Evaluation FormulaGrid.Failure FormulaGrid.Text

theorem word_of_reads {name : String} {position : Position}
    (read : Position.ofReference? name = some position) : Word name := by
  obtain ⟨column, digits, reads⟩ := Position.exists_reads (Position.ofReference?_eq_some_iff.1 read)
  obtain ⟨row, ending, whole, denotes, broken⟩ := reads.whole
  constructor
  · rintro rfl
    exact reads.lettered (List.append_eq_nil_iff.1 whole.symm).1
  · rw [whole]
    intro member
    rcases List.mem_append.1 member with letter | member
    · exact absurd (reads.upper ' ' letter) (by decide)
    · rcases List.mem_append.1 member with figure | last
      · obtain ⟨digit, written⟩ := denotes.isDigit ' ' figure
        exact absurd written.visible (by decide)
      · rcases broken with rfl | rfl <;> simp at last

section Outcomes

variable {sheet : Sheet} {name other text : String} {cell : Cell} {position : Position}

theorem outcome_valid (positive : 0 < sheet.maxDepth) {value : Value}
    (valid : Formula.validate text = .ok value) (name : String) :
    sheet.outcome name text = .ok (evaluateWithin (some sheet.accessor)
      (Chain.start (some name) sheet.maxDepth.toNat (Chain.toNat_pos positive))
      Allowance.standard text) := by
  rw [outcome, valid, Chain.start?, dif_pos positive]
  rfl

theorem not_cyclic_of_refused {fault : Fault} (refused : Formula.validate text = .error fault) :
    ¬ Cyclic (.error fault) := by
  rintro ⟨_, ⟨⟩, code⟩
  rcases validate_error_cases refused with ⟨other, _⟩ | ⟨other, _⟩ | other <;>
    exact absurd (other.symm.trans code) (by decide)

theorem outcome_retold (positive : 0 < sheet.maxDepth) (found : sheet.cell? name = some cell)
    (found' : sheet.cell? other = some cell) (formula : cell.isFormula) :
    ∃ outcome outcome', sheet.outcome name cell.expression = .ok outcome ∧
      sheet.outcome other cell.expression = .ok outcome' ∧ Retold name other outcome outcome' := by
  obtain ⟨position, reads, stored⟩ := cell?_eq_some_iff.1 found
  obtain ⟨position', reads', stored'⟩ := cell?_eq_some_iff.1 found'
  cases checked : Formula.validate cell.expression with
  | error fault =>
    have refused (name : String) : sheet.outcome name cell.expression = .ok (.error fault) := by
      rw [outcome, checked]
    exact ⟨_, _, refused name, refused other, .same _ (not_cyclic_of_refused checked)⟩
  | ok value =>
    have resolved : (some sheet.accessor).bind (· name) = some cell.snapshot :=
      Option.map_eq_some_iff.2 ⟨cell, found, rfl⟩
    have resolved' : (some sheet.accessor).bind (· other) = some cell.snapshot :=
      Option.map_eq_some_iff.2 ⟨cell, found', rfl⟩
    have starts : cell.snapshot.isFormula := startsFormula_of_isFormulaText formula
    exact ⟨_, _, outcome_valid positive checked name, outcome_valid positive checked other,
      retold (word_of_reads reads) (word_of_reads reads') resolved resolved' starts⟩

end Outcomes

section Updates

variable {sheet : Sheet} {name other text : String} {cell : Cell} {outcome : Outcome}

/-- What a text comes to in a cell, which is edited under a name. -/
def entered (sheet : Sheet) (position : Position) (name text : String) :
    Except SheetError Outcome :=
  if isFormulaText text then (sheet.modifyAt position (·.withText text)).outcome name text
  else .ok (.ok (literalValue text))

theorem update_entered (placed : sheet.cellAt? cell.position = some cell)
    (found : sheet.cell? name = some cell)
    (valued : sheet.entered cell.position name text = .ok outcome) :
    (sheet.update name text).result = .ok outcome ∧
      (sheet.update name text).sheet =
        sheet.modifyAt cell.position fun _ => (cell.withText text).computed outcome := by
  have updated : sheet.update name text = sheet.updateAt cell.position name text := by
    rw [update, Sheet.cell, found]
  have only (change : Cell → Cell) : sheet.modifyAt cell.position change =
      sheet.modifyAt cell.position fun _ => change cell := by
    refine modifyAt_congr fun other stored => ?_
    cases placed.symm.trans stored
    rfl
  unfold entered at valued
  rw [updated, updateAt]
  split at valued
  next formula =>
    rw [if_pos formula, valued]
    dsimp only
    rw [modifyAt_modifyAt, only]
    exact ⟨rfl, rfl⟩
  next plain =>
    cases valued
    rw [if_neg plain, Change.of]
    dsimp only
    rw [modifyAt_modifyAt, only]
    exact ⟨rfl, rfl⟩

theorem entered_retold (tidy : sheet.Tidy) (positive : 0 < sheet.maxDepth)
    (found : sheet.cell? name = some cell) (found' : sheet.cell? other = some cell)
    (text : String) :
    ∃ outcome outcome', sheet.entered cell.position name text = .ok outcome ∧
      sheet.entered cell.position other text = .ok outcome' ∧
      Retold name other outcome outcome' := by
  unfold entered
  split
  next formula =>
    have edited {name : String} (found : sheet.cell? name = some cell) :
        (sheet.modifyAt cell.position (·.withText text)).cell? name =
          some (cell.withText text) := by
      obtain ⟨position, reads, stored⟩ := cell?_eq_some_iff.1 found
      refine cell?_eq_some_iff.2 ⟨position, reads, ?_⟩
      rw [(tidy.cells position cell stored).placed, cellAt?_modifyAt, if_pos rfl, stored]
      rfl
    have deep : 0 < (sheet.modifyAt cell.position (·.withText text)).maxDepth := positive
    have told := outcome_retold deep (edited found) (edited found') formula
    exact told
  next plain => exact ⟨_, _, rfl, rfl, .same _ (not_cyclic_ok _)⟩

theorem cell?_reference (tidy : sheet.Tidy) (found : sheet.cell? name = some cell) :
    sheet.cell? cell.reference = some cell ∧ sheet.cellAt? cell.position = some cell := by
  obtain ⟨position, reads, stored⟩ := cell?_eq_some_iff.1 found
  have placed := (tidy.cells position cell stored).placed
  subst placed
  have readable := Position.readable_of_ofReference? reads
  exact ⟨cell?_eq_some_iff.2 ⟨_, Position.ofReference?_reference readable, stored⟩, stored⟩

theorem modifyAt_const_inj (stored : sheet.cellAt? cell.position = some cell) {shown other : Cell} :
    (sheet.modifyAt cell.position fun _ => shown) =
      (sheet.modifyAt cell.position fun _ => other) ↔ shown = other := by
  constructor
  · intro same
    have place := congrArg (·.cellAt? cell.position) same
    simpa only [cellAt?_modifyAt, if_true, stored, Option.map_some, Option.some.injEq] using place
  · rintro rfl
    rfl

theorem computed_retold (cell : Cell) {outcome outcome' : Outcome}
    (retold : Retold name other outcome outcome') :
    ∃ error, cell.computed outcome' = { cell.computed outcome with error := error } ∧
      error.isSome = (cell.computed outcome).error.isSome ∧
      (cell.computed outcome = cell.computed outcome' ↔
        name = other ∨ ¬ Cyclic outcome ∧ ¬ Cyclic outcome') := by
  cases retold with
  | same outcome acyclic => exact ⟨_, rfl, rfl, iff_of_true rfl (.inr ⟨acyclic, acyclic⟩)⟩
  | cycle fault fault' cyclic told =>
    refine ⟨some fault'.message, rfl, rfl, ?_⟩
    have some_cycle : ¬ (¬ Cyclic (.error fault) ∧ ¬ Cyclic (.error fault')) := by
      rintro ⟨acyclic, acyclic'⟩
      rcases cyclic with code | code
      · exact acyclic ⟨fault, rfl, code⟩
      · exact acyclic' ⟨fault', rfl, code⟩
    rw [or_iff_left some_cycle, ← told]
    simp [Cell.computed]

/-- A cell edited under some spelling of its reference holds the text, the value, and an error just
if it would under the reference itself. The errors are the same as well, unless there is a cycle. -/
theorem update_respelled (reachable : Reachable sheet) (positive : 0 < sheet.maxDepth)
    (found : sheet.cell? name = some cell) (text : String) :
    let spelled := sheet.update name text
    let plain := sheet.update cell.reference text
    ∃ outcome outcome' shown error, spelled.result = .ok outcome ∧ plain.result = .ok outcome' ∧
      spelled.sheet = (sheet.modifyAt cell.position fun _ => shown) ∧
      plain.sheet = (sheet.modifyAt cell.position fun _ => { shown with error := error }) ∧
      shown.expression = text ∧ error.isSome = shown.error.isSome ∧
      (spelled.sheet = plain.sheet ↔
        name = cell.reference ∨ ¬ Cyclic outcome ∧ ¬ Cyclic outcome') := by
  intro spelled plain
  obtain ⟨found', stored⟩ := cell?_reference reachable.tidy found
  obtain ⟨outcome, outcome', valued, valued', retold⟩ :=
    entered_retold reachable.tidy positive found found' text
  obtain ⟨result, after⟩ := update_entered stored found valued
  obtain ⟨result', after'⟩ := update_entered stored found' valued'
  obtain ⟨error, same, both, alike⟩ := computed_retold (cell.withText text) retold
  refine ⟨outcome, outcome', (cell.withText text).computed outcome, error, result, result', after,
    after'.trans (by rw [same]), ?_, both, ?_⟩
  · cases outcome <;> rfl
  · rw [← alike, ← modifyAt_const_inj stored, ← after, ← after']

theorem update_respelled_padded :
    let sheet := blank "New sheet" 64 1 2
    Reachable sheet ∧ 0 < sheet.maxDepth ∧ sheet.cell? "A01" = some (Cell.blank 0 0) ∧
      (sheet.update "A01" "=B1").sheet = (sheet.update "A1" "=B1").sheet := by
  intro sheet
  have reachable : Reachable sheet := .made "New sheet" 64 1 2 sheet rfl
  have found : sheet.cell? "A01" = some (Cell.blank 0 0) := rfl
  have found' : sheet.cell? "A1" = some (Cell.blank 0 0) := rfl
  have plain : (Cell.blank 0 0).reference = "A1" := by decide +kernel
  have entered (name : String) (other : "B1" ≠ name) :
      sheet.entered ⟨0, 0⟩ name "=B1" = .ok (.ok .empty) := by
    have mentioned : (sheet.modifyAt ⟨0, 0⟩ (·.withText "=B1")).cell? "B1" =
        some (Cell.blank 0 1) := rfl
    rw [Sheet.entered, if_pos (by decide)]
    exact outcome_reference (by decide) (by cbv) other mentioned (by decide)
  obtain ⟨outcome, outcome', _, _, result, result', _, _, _, _, alike⟩ :=
    update_respelled reachable (by decide) found "=B1"
  rw [plain] at result' alike
  cases (update_entered rfl found (entered "A01" (by decide))).1.symm.trans result
  cases (update_entered rfl found' (entered "A1" (by decide))).1.symm.trans result'
  have acyclic := not_cyclic_ok .empty
  exact ⟨reachable, by decide, found, alike.2 (.inr ⟨acyclic, acyclic⟩)⟩

/-- A formula that refers to its own cell is told to come back to it later, if the cell is edited
under another spelling. -/
theorem update_spelling_matters :
    ¬ ∀ (sheet : Sheet) (name text : String) (cell : Cell), Reachable sheet →
      0 < sheet.maxDepth → sheet.cell? name = some cell →
      (sheet.update name text).sheet = (sheet.update cell.reference text).sheet := by
  intro same
  let sheet := blank "New sheet" 64 1 1
  have stored : sheet.cellAt? ⟨0, 0⟩ = some (Cell.blank 0 0) := rfl
  have found : sheet.cell? "A01" = some (Cell.blank 0 0) := rfl
  have found' : sheet.cell? "A1" = some (Cell.blank 0 0) := rfl
  have plain : (Cell.blank 0 0).reference = "A1" := by decide +kernel
  let cell := (Cell.blank 0 0).withText "=A1"
  let edited := sheet.modifyAt ⟨0, 0⟩ (·.withText "=A1")
  have lexed : Token.tokenize "=A1" (Token.bodyStart "=A1") =
      .ok [⟨.cellReference, "A1", 1⟩, Token.finish 3] := by cbv
  have valid : Formula.validate "=A1" = .ok (.boolean true) := by cbv
  have evaluated (name : String) : sheet.entered ⟨0, 0⟩ name "=A1" =
      .ok (evaluate (some edited.accessor) (Chain.start (some name) 64 (by decide)) "=A1") := by
    rw [entered, if_pos (by decide), outcome, valid]
    rfl
  obtain ⟨inner, opened⟩ : ∃ inner,
    (Chain.start (some "A01") 64 (by decide)).enter "A1" = .ok inner := ⟨_, rfl⟩
  have looped : evaluateWithin (some edited.accessor) inner (some 954) "=A1" =
      .error (.formula ⟨.cycle ["A01", "A1", "A1"], some 1⟩) := by
    have references := Chain.references_enter opened
    rw [evaluateWithin_open lexed (by simp [references]), references]
    rfl
  have spelled : sheet.entered ⟨0, 0⟩ "A01" "=A1" =
      .ok (.error (.formula ⟨.cycle ["A01", "A1", "A1"], none⟩)) := by
    have found : (some edited.accessor).bind (· "A1") = some cell.snapshot := rfl
    rw [evaluated, evaluate, evaluateWithin_followed lexed found (by decide) opened rfl]
    exact congrArg (fun failed => Except.ok (failed.mapError Fault.elsewhere)) looped
  have valued : sheet.entered ⟨0, 0⟩ "A1" "=A1" =
      .ok (.error (.formula ⟨.cycle ["A1", "A1"], some 1⟩)) := by
    rw [evaluated, evaluate, evaluateWithin_open lexed (by decide)]
    rfl
  have equal := same sheet "A01" "=A1" _ (.made "New sheet" 64 1 1 sheet rfl) (by decide) found
  rw [plain, (update_entered stored found spelled).2, (update_entered stored found' valued).2]
    at equal
  have error := congrArg Cell.error ((modifyAt_const_inj stored).1 equal)
  exact absurd (Option.some.inj error) (by decide)

end Updates

end FormulaGrid.Sheet
