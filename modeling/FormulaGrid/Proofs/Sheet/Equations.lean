import FormulaGrid.Proofs.Origin
import FormulaGrid.Proofs.Sheet.Recalculation

/-! A recalculated sheet as a system of equations, one for each formula: its cell shows what the
formula comes to when every reference reads what the cell it names shows. -/
namespace FormulaGrid

/-- What a cell shows to those who read its value and not its text. -/
def Cell.shown (cell : Cell) : Snapshot :=
  ⟨cell.reference, "", if isBareSign cell.expression then .empty else cell.value⟩

namespace Sheet

open FormulaGrid.Evaluation FormulaGrid.Failure FormulaGrid.Formula FormulaGrid.Grammar

/-- The sheets that a recalculation has just left, called for itself or as the end of loading and of
removing a row or a column. -/
inductive Recalculated : Sheet → Prop
  | recalculated (sheet : Sheet) (reachable : Reachable sheet) :
      Recalculated sheet.recalculate.sheet
  | loaded (content : Data) (maxDepth : Int) (sheet : Sheet)
      (loaded : (ofData content maxDepth).result = .ok sheet) : Recalculated sheet
  | rowRemoved (sheet : Sheet) (index : Int) (reachable : Reachable sheet)
      (removed : (sheet.removeRow index).result = .ok ()) :
      Recalculated (sheet.removeRow index).sheet
  | columnRemoved (sheet : Sheet) (index : Int) (reachable : Reachable sheet)
      (removed : (sheet.removeColumn index).result = .ok ()) :
      Recalculated (sheet.removeColumn index).sheet

def shown (sheet : Sheet) : Accessor := fun reference =>
  (sheet.cell? reference).map Cell.shown

/-- What cells show, as long as they are not in error. -/
def healthy (sheet : Sheet) : Accessor := fun reference =>
  (sheet.cell? reference).bind fun cell => if cell.error = none then some cell.shown else none

/-- The chain in which a cell's formula is evaluated. -/
def chainOf (sheet : Sheet) (positive : 0 < sheet.maxDepth) (cell : Cell) : Chain :=
  Chain.start (some cell.reference) sheet.maxDepth.toNat (Chain.toNat_pos positive)

section Settled

variable {sheet : Sheet} {cell : Cell}

theorem Recalculated.exists_tidy (recalculated : Recalculated sheet) :
    ∃ former : Sheet, former.Tidy ∧ sheet = former.recalculate.sheet := by
  cases recalculated with
  | recalculated sheet reachable => exact ⟨sheet, reachable.tidy, rfl⟩
  | loaded content maxDepth sheet loaded =>
    obtain ⟨stored, _, tidy, _, same⟩ := ofData_result_ok loaded
    exact ⟨stored, tidy, same⟩
  | rowRemoved sheet index reachable removed =>
    rcases removeRow_cases sheet index with ⟨_, same, _⟩ | ⟨⟨others, inside⟩, same⟩
    · rw [same] at removed
      cases removed
    · rw [same, recalculateOnly_sheet]
      exact ⟨sheet.dropRow index.toNat, reachable.tidy.dropRow others inside, rfl⟩
  | columnRemoved sheet index reachable removed =>
    rcases removeColumn_cases sheet index with ⟨_, same, _⟩ | ⟨⟨others, inside⟩, same⟩
    · rw [same] at removed
      cases removed
    · rw [same, recalculateOnly_sheet]
      exact ⟨sheet.dropColumn index.toNat, reachable.tidy.dropColumn others inside, rfl⟩

theorem Recalculated.settled (recalculated : Recalculated sheet) (positive : 0 < sheet.maxDepth) :
    sheet.Tidy ∧ ∀ cell ∈ sheet.cells, sheet.settle cell = cell := by
  obtain ⟨former, tidy, rfl⟩ := recalculated.exists_tidy
  have kept := congrArg Sheet.maxDepth (frame_recalculate former)
  have depth : 0 < former.maxDepth := by
    change former.recalculate.sheet.maxDepth = former.maxDepth at kept
    rwa [← kept]
  have after := tidy.recalculate
  obtain ⟨_, settled⟩ := recalculate_eq tidy depth
  rw [settled] at after ⊢
  refine ⟨after, fun cell member => ?_⟩
  obtain ⟨position, stored⟩ := mem_cells_iff.1 member
  rw [cellAt?_mapCells] at stored
  obtain ⟨before, _, rfl⟩ := Option.map_eq_some_iff.1 stored
  rw [← settle_eq tidy after (sameTexts_settle former)]
  exact settle_settle former before

variable (positive : 0 < sheet.maxDepth)

/-- A settled formula is in error unless it has a value, which its cell shows then. -/
theorem settled_iff (formula : cell.isFormula) (settled : sheet.settle cell = cell) :
    (cell.error = none ↔ ∃ v, evaluate (some sheet.accessor) (sheet.chainOf positive cell)
      cell.expression = .ok v) ∧
    ∀ v, evaluate (some sheet.accessor) (sheet.chainOf positive cell) cell.expression = .ok v →
      cell.value = v := by
  rw [settle, if_pos formula, outcome, Chain.start?, dif_pos positive] at settled
  cases valid : validate cell.expression with
  | error fault =>
    have failed : cell.error = some fault.message := by
      rw [valid] at settled
      rw [← settled]
      rfl
    have none_valued (v : Value) : evaluate (some sheet.accessor) (sheet.chainOf positive cell)
        cell.expression ≠ .ok v := by
      intro valued
      obtain ⟨w, accepted⟩ := validate_of_value valued
      rw [valid] at accepted
      cases accepted
    refine ⟨⟨fun healthy => ?_, fun valued => absurd valued (not_exists.2 none_valued)⟩,
      fun v valued => absurd valued (none_valued v)⟩
    rw [failed] at healthy
    cases healthy
  | ok accepted =>
    rw [valid] at settled
    change cell.computed (evaluate (some sheet.accessor) (sheet.chainOf positive cell)
      cell.expression) = cell at settled
    cases result : evaluate (some sheet.accessor) (sheet.chainOf positive cell)
        cell.expression with
    | error fault =>
      rw [result] at settled
      have failed : cell.error = some fault.message := by
        rw [← settled]
        rfl
      simp [failed]
    | ok v =>
      rw [result] at settled
      have value : cell.value = v := by rw [← settled]; rfl
      have error : cell.error = none := by rw [← settled]; rfl
      simp [value, error]

end Settled

section Solutions

variable {sheet : Sheet} {cell : Cell} {chain : Chain} {a : Allowance} {v : Value}

theorem reference_ne_empty (position : Position) : position.reference ≠ "" := by
  intro empty
  have spelled := congrArg String.toList empty
  rw [Position.reference, Position.columnName, String.toList_append,
    String.toList_ofList] at spelled
  exact Position.letters_ne_nil (Nat.succ_pos position.column) (List.append_eq_nil_iff.1 spelled).1

theorem references_chainOf (positive : 0 < sheet.maxDepth) (cell : Cell) :
    (sheet.chainOf positive cell).references = [cell.reference] := by
  have named : cell.reference ≠ "" := reference_ne_empty cell.position
  simp [chainOf, Chain.start, Chain.references, Option.filter, named]

/-- A formula that has a value when it is followed from somewhere has the same value in its own
cell. -/
theorem value_of_followed (tidy : sheet.Tidy) (positive : 0 < sheet.maxDepth)
    (member : cell ∈ sheet.cells) (formula : cell.isFormula) (nonempty : chain.references ≠ [])
    (depth : chain.maxDepth = sheet.maxDepth.toNat)
    (limited : Allowance.AtMost a Allowance.standard)
    (valued : evaluateWithin (some sheet.accessor) chain a cell.expression = .ok v) :
    evaluate (some sheet.accessor) (sheet.chainOf positive cell) cell.expression = .ok v := by
  obtain ⟨position, stored⟩ := mem_cells_iff.1 member
  have known := tidy.cells position cell stored
  have spelled : cell.expression ≠ "" := by
    intro blank
    rw [Cell.isFormula, blank] at formula
    cases formula
  have own : sheet.cell? cell.reference = some cell := by
    refine cell?_eq_some_iff.2 ⟨position, ?_, stored⟩
    rw [Cell.reference, known.placed]
    exact Position.ofReference?_reference (known.readable spelled)
  have found : (some sheet.accessor).bind (· cell.reference) = some cell.snapshot :=
    Option.map_eq_some_iff.2 ⟨cell, own, rfl⟩
  have free : evaluateWithin (some sheet.accessor) chain none cell.expression = .ok v :=
    value_of_looser (Looser.refl chain) trivial valued
  have sound : Sound (some sheet.accessor) chain cell.snapshot.rawExpression := sound_of_value free
  have starts : cell.snapshot.isFormula := startsFormula_of_isFormulaText formula
  exact value_of_sound valued
    (sound.restart found starts nonempty (references_chainOf positive cell) depth.symm) limited

theorem shown_of_referenceValue (tidy : sheet.Tidy) (positive : 0 < sheet.maxDepth)
    (settled : ∀ cell ∈ sheet.cells, sheet.settle cell = cell) {token : Token}
    (depth : chain.maxDepth = sheet.maxDepth.toNat)
    (limited : Allowance.AtMost a Allowance.standard)
    (valued : referenceValue (some sheet.accessor) chain a token = .ok v) :
    token.lexeme ∉ chain.references ∧ ∃ other, sheet.cell? token.lexeme = some other ∧
      other.error = none ∧ other.shown.cachedValue = v := by
  obtain ⟨absent, snapshot, resolved, valued⟩ := referenceValue_ok_iff.1 valued
  obtain ⟨other, found, rfl⟩ := Option.map_eq_some_iff.1 resolved
  refine ⟨absent, other, found, ?_⟩
  obtain ⟨position, _, stored⟩ := cell?_eq_some_iff.1 found
  have member := mem_cells_iff.2 ⟨position, stored⟩
  have known := tidy.cells position other stored
  rw [Cell.shown]
  split at valued
  next starts =>
    obtain ⟨inner, left, entered, spent, evaluated⟩ := valued
    rcases startsFormula_cases starts with formula | bare
    · change isFormulaText other.expression at formula
      have inside : inner.references ≠ [] := by
        rw [Chain.references_enter entered]
        simp
      have deep := (Chain.maxDepth_enter entered).trans depth
      have value := value_of_followed tidy positive member formula inside deep
        (atMost_trans (atMost_of_spend spent) limited) evaluated
      obtain ⟨healthy, shows⟩ := settled_iff positive formula (settled other member)
      rw [isBareSign_of_isFormulaText formula]
      exact ⟨healthy.2 ⟨v, value⟩, shows v value⟩
    · rw [evaluateWithin_blank _ _ _ (length_le_bodyStart bare)] at evaluated
      cases evaluated
      exact ⟨(known.shown (isFormulaText_of_isBareSign bare)).2, if_pos bare⟩
  next quiet =>
    have plain : other.isFormula = false :=
      Bool.eq_false_iff.2 fun formula => quiet (startsFormula_of_isFormulaText formula)
    have visible : ¬ isBareSign other.expression := fun bare =>
      quiet (startsFormula_of_isBareSign bare)
    exact ⟨(known.shown plain).2, (if_neg visible).trans valued.symm⟩

/-- A text keeps its value where references read what their cells show, in error or not. -/
theorem value_of_reading {read : Accessor} (tidy : sheet.Tidy) (positive : 0 < sheet.maxDepth)
    (settled : ∀ cell ∈ sheet.cells, sheet.settle cell = cell)
    (reads : ∀ name other, sheet.cell? name = some other → other.error = none →
      read name = some other.shown) {text : String}
    (depth : chain.maxDepth = sheet.maxDepth.toNat)
    (limited : Allowance.AtMost a Allowance.standard)
    (valued : evaluateWithin (some sheet.accessor) chain a text = .ok v) :
    evaluateWithin (some read) chain a text = .ok v := by
  refine value_of_follows (atMost_refl a) (fun c d token w _ less _ result => ?_) valued
  obtain ⟨absent, other, found, fine, shows⟩ := shown_of_referenceValue tidy positive settled
    depth (atMost_trans less limited) result
  exact referenceValue_ok_iff.2
    ⟨absent, other.shown, reads token.lexeme other found fine, shows.symm⟩

theorem healthy_eq_some_iff {name : String} {snapshot : Snapshot} :
    sheet.healthy name = some snapshot ↔
      ∃ other, sheet.cell? name = some other ∧ other.error = none ∧ other.shown = snapshot := by
  simp [healthy, Option.bind_eq_some_iff]

/-- What has a value where cells in error cannot be read mentions none of them. -/
theorem healthy_of_value {text name : String}
    (valued : evaluateWithin (some sheet.healthy) chain a text = .ok v)
    (mentioned : name ∈ mentions text) :
    ∃ other, sheet.cell? name = some other ∧ other.error = none := by
  have free : evaluateWithin (some sheet.healthy) chain none text = .ok v :=
    value_of_looser (Looser.refl chain) trivial valued
  obtain ⟨_, cell, resolved, _⟩ := (sound_of_value free).followed mentioned
  obtain ⟨other, found, fine, _⟩ := healthy_eq_some_iff.1 resolved
  exact ⟨other, found, fine⟩

/-- A recalculated sheet solves its own equations: a formula's cell is in error unless its formula
has a value, which it shows then; this is the value of the formula when every reference reads what
its cell shows; and no cell in error is mentioned by one that is not. -/
theorem recalculated_solves (recalculated : Recalculated sheet) (positive : 0 < sheet.maxDepth)
    (member : cell ∈ sheet.cells) (formula : cell.isFormula) :
    (cell.error = none ↔ ∃ v, evaluate (some sheet.accessor) (sheet.chainOf positive cell)
      cell.expression = .ok v) ∧
    (∀ v, evaluate (some sheet.accessor) (sheet.chainOf positive cell) cell.expression = .ok v →
      cell.value = v) ∧
    (cell.error = none →
      (∀ name ∈ mentions cell.expression,
        ∃ other, sheet.cell? name = some other ∧ other.error = none) ∧
      evaluate (some sheet.shown) (sheet.chainOf positive cell) cell.expression =
        .ok cell.value) ∧
    (∀ name ∈ mentions cell.expression, ∀ other, sheet.cell? name = some other →
      other.error ≠ none → cell.error ≠ none) := by
  obtain ⟨tidy, settled⟩ := recalculated.settled positive
  obtain ⟨healthy, shows⟩ := settled_iff positive formula (settled cell member)
  have equation (fine : cell.error = none) :
      (∀ name ∈ mentions cell.expression,
        ∃ other, sheet.cell? name = some other ∧ other.error = none) ∧
      evaluate (some sheet.shown) (sheet.chainOf positive cell) cell.expression =
        .ok cell.value := by
    obtain ⟨v, valued⟩ := healthy.1 fine
    constructor
    · have guarded : evaluateWithin (some sheet.healthy) (sheet.chainOf positive cell)
          Allowance.standard cell.expression = .ok v :=
        value_of_reading tidy positive settled
          (fun name other found fine => healthy_eq_some_iff.2 ⟨other, found, fine, rfl⟩)
          rfl (atMost_refl _) valued
      exact fun name mentioned => healthy_of_value guarded mentioned
    · rw [shows v valued]
      exact value_of_reading tidy positive settled
        (fun name other found _ => Option.map_eq_some_iff.2 ⟨other, found, rfl⟩)
        rfl (atMost_refl _) valued
  refine ⟨healthy, shows, equation, fun name mentioned other found failed fine => ?_⟩
  obtain ⟨same, resolved, free⟩ := (equation fine).1 name mentioned
  obtain rfl := Option.some.inj (resolved.symm.trans found)
  exact failed free

theorem load_mention :
    let entries : Data.Entries := [("rows", .integer 1), ("columns", .integer 2),
      ("cells", .mapping [("A1", .text "=B1"), ("B1", .text "x")])]
    (ofData (.mapping entries) 64).result = .ok ⟨"New sheet", 64, 1, 2,
      [[⟨0, 0, "=B1", .text "x", none⟩, ⟨0, 1, "x", .text "x", none⟩]]⟩ := by
  intro entries
  let first : Cell := ⟨0, 0, "=B1", .empty, none⟩
  let second : Cell := ⟨0, 1, "x", .text "x", none⟩
  let stored : Sheet := ⟨"New sheet", 64, 1, 2, [[first, second]]⟩
  have loaded : ofEntries entries 64 = .ok stored := rfl
  have named : first.reference = "A1" := by decide +kernel
  have found : stored.cell? "B1" = some second := rfl
  have valued : stored.outcome "A1" "=B1" = .ok (.ok (.text "x")) :=
    outcome_reference (by decide) (by cbv) (by decide) found (by decide)
  have settled : stored.settle first = ⟨0, 0, "=B1", .text "x", none⟩ := by
    rw [settle, if_pos (by decide), named, valued]
    rfl
  have kept : stored.settle second = second := by
    rw [settle, if_neg (by decide)]
    decide
  rw [ofData_settled loaded (by decide)]
  change Except.ok { stored with grid := [[stored.settle first, stored.settle second]] } = _
  rw [settled, kept]

theorem recalculated_solves_later :
    let content : Data := .mapping [("rows", .integer 1), ("columns", .integer 2),
      ("cells", .mapping [("A1", .text "=B1"), ("B1", .text "x")])]
    let cell : Cell := ⟨0, 0, "=B1", .text "x", none⟩
    let sheet : Sheet := ⟨"New sheet", 64, 1, 2, [[cell, ⟨0, 1, "x", .text "x", none⟩]]⟩
    (ofData content 64).result = .ok sheet ∧
      evaluate (some sheet.shown) (sheet.chainOf (by decide) cell) "=B1" = .ok (.text "x") := by
  intro content cell sheet
  have loaded : (ofData content 64).result = .ok sheet := load_mention
  have member : cell ∈ sheet.cells := List.mem_cons_self
  have formula : cell.isFormula := by decide
  have solved := recalculated_solves (.loaded content 64 sheet loaded) (by decide) member formula
  exact ⟨loaded, (solved.2.2.1 rfl).2⟩

end Solutions

end Sheet
end FormulaGrid
