import FormulaGrid.Proofs.FormulaText
import FormulaGrid.Proofs.Nesting
import FormulaGrid.Proofs.Sheet.Reachable
import FormulaGrid.Proofs.Source

/-! What recalculation comes to. A formula reads the texts of other formulas and never the values
that they last had, so that computing one cell changes nothing for the next one: each cell settles
on what its text comes to in the sheet as it was, whatever order the cells are visited in. -/
namespace FormulaGrid.Sheet

open FormulaGrid.Evaluation

/-- The cell with the value that its text comes to in a sheet. -/
def settle (sheet : Sheet) (cell : Cell) : Cell :=
  if cell.isFormula then
    match sheet.outcome cell.reference cell.expression with
    | .ok outcome => cell.computed outcome
    | .error _ => cell
  else cell.literal

def text? (sheet : Sheet) (position : Position) : Option String :=
  (sheet.cellAt? position).map Cell.expression

def eventsAt (sheet : Sheet) (position : Position) : List Event :=
  match sheet.text? position with
  | none => []
  | some text =>
    if isFormulaText text then
      match sheet.outcome position.reference text with
      | .ok outcome => [sheet.computedEvent position.reference text outcome]
      | .error _ => []
    else []

def hasText (sheet : Sheet) (position : Position) : Bool :=
  (sheet.text? position).getD "" != ""

/-- Two sheets of one size that hold the same texts, whatever values they show. -/
structure SameTexts (sheet other : Sheet) : Prop where
  rows : sheet.rows = other.rows
  columns : sheet.columns = other.columns
  maxDepth : sheet.maxDepth = other.maxDepth
  texts : ∀ position, sheet.text? position = other.text? position

section Settling

variable {sheet other : Sheet} {cell : Cell} {position : Position}

theorem expression_settle (sheet : Sheet) (cell : Cell) :
    (sheet.settle cell).expression = cell.expression := by
  unfold settle
  split
  · split
    next outcome _ => cases outcome <;> rfl
    next => rfl
  · rfl

theorem position_settle (sheet : Sheet) (cell : Cell) :
    (sheet.settle cell).position = cell.position := by
  unfold settle
  split
  · split
    next outcome _ => cases outcome <;> rfl
    next => rfl
  · rfl

theorem source_snapshot_eq {cell former : Cell} (tidy : cell.Tidy position)
    (before : former.Tidy position) (text : cell.expression = former.expression) :
    cell.snapshot.source = former.snapshot.source := by
  have placed : cell.position = former.position := tidy.placed.trans before.placed.symm
  have reference : cell.reference = former.reference := congrArg Position.reference placed
  cases starts : startsFormula cell.expression with
  | true =>
    have first : cell.snapshot.isFormula := starts
    have second : former.snapshot.isFormula :=
      (congrArg startsFormula text).symm.trans starts
    rw [Snapshot.source, Snapshot.source, if_pos first, if_pos second]
    simp [Cell.snapshot, reference, text]
  | false =>
    have plain : cell.isFormula = false :=
      Bool.eq_false_iff.2 fun formula => by
        rw [startsFormula_of_isFormulaText formula] at starts
        cases starts
    have same : former.isFormula = false := (congrArg isFormulaText text).symm.trans plain
    have snapshot : cell.snapshot = former.snapshot := by
      simp [Cell.snapshot, reference, text, (tidy.shown plain).1, (before.shown same).1]
    rw [snapshot]

theorem sources_eq (tidy : sheet.Tidy) (before : other.Tidy) (same : SameTexts sheet other) :
    sheet.accessor.sources = other.accessor.sources := by
  funext reference
  unfold Accessor.sources accessor cell?
  cases read : Position.ofReference? reference with
  | none => rfl
  | some position =>
    have text := same.texts position
    unfold text? at text
    change ((sheet.cellAt? position).map _).map _ = ((other.cellAt? position).map _).map _
    cases first : sheet.cellAt? position with
    | none =>
      rw [first, Option.map_none, eq_comm, Option.map_eq_none_iff] at text
      rw [text]
    | some cell =>
      rw [first] at text
      obtain ⟨former, second, expression⟩ := Option.map_eq_some_iff.1 text.symm
      rw [second]
      exact congrArg some (source_snapshot_eq (tidy.cells position cell first)
        (before.cells position former second) expression.symm)

theorem outcome_eq (tidy : sheet.Tidy) (before : other.Tidy) (same : SameTexts sheet other)
    (reference expression : String) :
    sheet.outcome reference expression = other.outcome reference expression := by
  have evaluated (chain : Chain) :
      evaluate (some sheet.accessor) chain expression =
        evaluate (some other.accessor) chain expression := by
    rw [evaluate, ← evaluateWithin_sources, sources_eq tidy before same, evaluateWithin_sources,
      evaluate]
  simp only [outcome, same.maxDepth, evaluated]

theorem settle_eq (tidy : sheet.Tidy) (before : other.Tidy) (same : SameTexts sheet other) :
    sheet.settle = other.settle := by
  funext cell
  simp only [settle, outcome_eq tidy before same]

end Settling

section Recomputing

variable {sheet other : Sheet} {cell : Cell} {position : Position}

theorem settle_settle (sheet : Sheet) (cell : Cell) :
    sheet.settle (sheet.settle cell) = sheet.settle cell := by
  have text := expression_settle sheet cell
  have reference : (sheet.settle cell).reference = cell.reference :=
    congrArg Position.reference (position_settle sheet cell)
  cases formula : cell.isFormula with
  | false =>
    have plain : (sheet.settle cell).isFormula = false :=
      (congrArg isFormulaText text).trans formula
    rw [settle, plain]
    simp [settle, formula, Cell.literal]
  | true =>
    have again : (sheet.settle cell).isFormula = true :=
      (congrArg isFormulaText text).trans formula
    rw [settle, again, reference, text]
    simp only [settle, formula, if_true]
    cases sheet.outcome cell.reference cell.expression with
    | error error => rfl
    | ok outcome => cases outcome <;> rfl

theorem settle_plain (tidy : cell.Tidy position) (plain : cell.isFormula = false) :
    sheet.settle cell = cell := by
  rw [settle, plain]
  exact tidy.literal plain

theorem Tidy.settled (tidy : cell.Tidy position) : (sheet.settle cell).Tidy position := by
  cases formula : cell.isFormula with
  | false => rwa [settle_plain tidy formula]
  | true =>
    refine Cell.tidy_formula ((position_settle sheet cell).trans tidy.placed) ?_ ?_ ?_
    · exact (congrArg isFormulaText (expression_settle sheet cell)).trans formula
    · rw [settle, if_pos formula]
      split
      next outcome _ => exact Cell.failed_computed outcome
      next => exact tidy.failed
    · rw [expression_settle]
      exact tidy.readable

theorem sameTexts_settle (sheet : Sheet) : SameTexts sheet (sheet.mapCells sheet.settle) := by
  refine ⟨rfl, rfl, rfl, fun place => ?_⟩
  rw [text?, text?, cellAt?_mapCells, Option.map_map]
  exact congrArg (Option.map · (sheet.cellAt? place))
    (funext fun cell => (expression_settle sheet cell).symm)

theorem text?_modifyAt {change : Cell → Cell}
    (kept : ∀ cell, (change cell).expression = cell.expression) (place : Position) :
    (sheet.modifyAt position change).text? place = sheet.text? place := by
  rw [text?, cellAt?_modifyAt]
  split
  · rw [Option.map_map]
    exact congrArg (Option.map · (sheet.cellAt? place)) (funext kept)
  · rfl

theorem outcome_ok (positive : 0 < sheet.maxDepth) (reference expression : String) :
    ∃ outcome, sheet.outcome reference expression = .ok outcome := by
  unfold outcome
  split
  · exact ⟨_, rfl⟩
  · rw [Chain.start?, dif_pos positive]
    exact ⟨_, rfl⟩

theorem outcome_reference {reference text name : String} {place : Nat}
    (positive : 0 < sheet.maxDepth)
    (lexed : Token.tokenize text (Token.bodyStart text) =
      .ok [⟨.cellReference, name, place⟩, Token.finish text.length])
    (other : name ≠ reference) (found : sheet.cell? name = some cell)
    (plain : startsFormula cell.expression = false) :
    sheet.outcome reference text = .ok (.ok cell.value) := by
  let chain := Chain.start (some reference) sheet.maxDepth.toNat (Chain.toNat_pos positive)
  have closed : name ∉ chain.references := by
    simp [chain, Chain.start, Chain.references, other.symm]
  have resolved : (some sheet.accessor).bind (· name) = some cell.snapshot :=
    Option.map_eq_some_iff.2 ⟨cell, found, rfl⟩
  have valued : evaluate (some sheet.accessor) chain text = .ok cell.value :=
    evaluateWithin_plain lexed closed resolved plain
  obtain ⟨w, valid⟩ := validate_of_value valued
  rw [outcome, valid, Chain.start?, dif_pos positive]
  exact congrArg Except.ok valued

theorem eventsAt_congr (tidy : sheet.Tidy) (before : other.Tidy) (same : SameTexts sheet other)
    (named : sheet.name = other.name) : sheet.eventsAt = other.eventsAt := by
  have told (reference text : String) (outcome : Outcome) :
      sheet.computedEvent reference text outcome = other.computedEvent reference text outcome := by
    cases outcome <;> simp [computedEvent, named]
  funext place
  simp only [eventsAt, same.texts, outcome_eq tidy before same, told]

theorem modifyAt_withText (stored : sheet.cellAt? position = some cell) :
    sheet.modifyAt position (·.withText cell.expression) = sheet := by
  refine modifyAt_eq_self fun other found => ?_
  rw [stored] at found
  cases found
  rfl

theorem updateAt_own (tidy : sheet.Tidy) (positive : 0 < sheet.maxDepth)
    (stored : sheet.cellAt? position = some cell) :
    ∃ outcome, sheet.updateAt position cell.reference cell.expression =
      ⟨.ok outcome, sheet.modifyAt position sheet.settle, sheet.eventsAt position⟩ := by
  have edited := modifyAt_withText stored
  have reference : cell.reference = position.reference :=
    congrArg Position.reference (tidy.cells position cell stored).placed
  have text : sheet.text? position = some cell.expression := by rw [text?, stored]; rfl
  obtain ⟨outcome, valued⟩ := outcome_ok positive cell.reference cell.expression
  unfold updateAt
  rw [edited]
  dsimp only
  rw [valued]
  split
  next formula =>
    have settled : sheet.modifyAt position (·.computed outcome) =
        sheet.modifyAt position sheet.settle := by
      refine modifyAt_congr fun other found => ?_
      rw [stored] at found
      cases found
      rw [settle, Cell.isFormula, if_pos formula, valued]
    have told : sheet.eventsAt position =
        [sheet.computedEvent cell.reference cell.expression outcome] := by
      rw [reference] at valued ⊢
      simp only [eventsAt, text, formula, if_true, valued]
    exact ⟨outcome, by rw [← settled, told]⟩
  next plain =>
    have settled : sheet.modifyAt position Cell.literal = sheet.modifyAt position sheet.settle := by
      refine modifyAt_congr fun other found => ?_
      rw [stored] at found
      cases found
      rw [settle, Cell.isFormula, if_neg plain]
    have silent : sheet.eventsAt position = [] := by
      simp only [eventsAt, text, plain]
      rfl
    exact ⟨.ok (literalValue cell.expression), by rw [← settled, silent]; rfl⟩

theorem recomputeAt_cons (tidy : sheet.Tidy) (positive : 0 < sheet.maxDepth)
    (position : Position) (positions : List Position) :
    recomputeAt (position :: positions) sheet =
      let rest := recomputeAt positions (sheet.modifyAt position sheet.settle)
      ⟨rest.result.map (· + if sheet.hasText position then 1 else 0), rest.sheet,
        sheet.eventsAt position ++ rest.events⟩ := by
  -- A cell without a text is not visited, and settles on what it is.
  have skipped (silent : sheet.eventsAt position = []) (empty : sheet.hasText position = false)
      (unchanged : sheet.modifyAt position sheet.settle = sheet) :
      recomputeAt positions sheet =
        let rest := recomputeAt positions (sheet.modifyAt position sheet.settle)
        ⟨rest.result.map (· + if sheet.hasText position then 1 else 0), rest.sheet,
          sheet.eventsAt position ++ rest.events⟩ := by
    rw [silent, empty, unchanged]
    generalize recomputeAt positions sheet = rest
    obtain ⟨result, final, events⟩ := rest
    cases result <;> rfl
  rw [recomputeAt]
  split
  next missing =>
    refine skipped (by rw [eventsAt, text?, missing]; rfl) (by rw [hasText, text?, missing]; rfl) ?_
    exact modifyAt_eq_self fun cell found => by
      rw [missing] at found
      cases found
  next cell stored =>
    have text : sheet.text? position = some cell.expression := by rw [text?, stored]; rfl
    split
    next blank =>
      rw [blank] at text
      refine skipped (by rw [eventsAt, text]; rfl) (by rw [hasText, text]; rfl) ?_
      refine modifyAt_eq_self fun other found => ?_
      rw [stored] at found
      cases found
      refine settle_plain (tidy.cells position cell stored) ?_
      rw [Cell.isFormula, blank]
      rfl
    next spelled =>
      have held : sheet.hasText position = true := by
        rw [hasText, text]
        exact bne_iff_ne.2 spelled
      obtain ⟨outcome, updated⟩ := updateAt_own tidy positive stored
      rw [updated, held]
      unfold Change.andThen
      dsimp only
      generalize recomputeAt positions (sheet.modifyAt position sheet.settle) = rest
      obtain ⟨result, final, events⟩ := rest
      cases result <;> simp [Change.of, Except.map]

/-- Computing cells anew settles these cells, in whatever order and however often. -/
theorem recomputeAt_eq (tidy : sheet.Tidy) (positive : 0 < sheet.maxDepth)
    (positions : List Position) :
    recomputeAt positions sheet =
      ⟨.ok (positions.countP sheet.hasText),
        sheet.mapCells fun cell => if cell.position ∈ positions then sheet.settle cell else cell,
        positions.flatMap sheet.eventsAt⟩ := by
  induction positions generalizing sheet with
  | nil => simp [recomputeAt, Change.of, mapCells]
  | cons position positions ih =>
    have next : (sheet.modifyAt position sheet.settle).Tidy :=
      tidy.modifyAt fun cell before => Tidy.settled before
    have texts : SameTexts (sheet.modifyAt position sheet.settle) sheet :=
      ⟨rfl, rfl, rfl, text?_modifyAt (expression_settle sheet)⟩
    have told : (sheet.modifyAt position sheet.settle).eventsAt = sheet.eventsAt :=
      eventsAt_congr next tidy texts rfl
    have held : (sheet.modifyAt position sheet.settle).hasText = sheet.hasText :=
      funext fun place => by rw [hasText, texts.texts, hasText]
    rw [recomputeAt_cons tidy positive, ih next positive, told, held, settle_eq next tidy texts,
      modifyAt_eq_mapCells tidy, mapCells_mapCells, List.countP_cons, List.flatMap_cons]
    dsimp only
    congr 1
    refine mapCells_congr fun cell _ => ?_
    by_cases here : cell.position = position
    · by_cases again : position ∈ positions
      · simp [here, again, position_settle, settle_settle]
      · simp [here, again, position_settle]
    · simp [here]

theorem recalculate_change (tidy : sheet.Tidy) (positive : 0 < sheet.maxDepth) :
    let positions := sheet.cells.map Cell.position
    let final := sheet.mapCells sheet.settle
    let count := positions.countP sheet.hasText
    sheet.recalculate =
      ⟨.ok count, final, positions.flatMap sheet.eventsAt ++ [final.recalculatedEvent count]⟩ := by
  intro positions final count
  have settled : (sheet.mapCells fun cell =>
      if cell.position ∈ positions then sheet.settle cell else cell) = final :=
    mapCells_congr fun cell member => if_pos (List.mem_map_of_mem member)
  rw [recalculate, recomputeAt_eq tidy positive, settled]
  rfl

theorem recalculate_eq (tidy : sheet.Tidy) (positive : 0 < sheet.maxDepth) :
    (∃ count, sheet.recalculate.result = .ok count) ∧
      sheet.recalculate.sheet = sheet.mapCells sheet.settle := by
  rw [recalculate_change tidy positive]
  exact ⟨⟨_, rfl⟩, rfl⟩

theorem ofData_settled {entries : Data.Entries} {maxDepth : Int}
    (kept : ofEntries entries maxDepth = .ok sheet) (positive : 0 < sheet.maxDepth) :
    (ofData (.mapping entries) maxDepth).result = .ok (sheet.mapCells sheet.settle) := by
  have change := recalculate_change (tidy_of_ofEntries kept) positive
  rw [ofData, kept]
  dsimp only at change ⊢
  rw [change]
  rfl

end Recomputing

end FormulaGrid.Sheet
