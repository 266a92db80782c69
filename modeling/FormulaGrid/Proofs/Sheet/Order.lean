import FormulaGrid.Proofs.Sheet.History
import FormulaGrid.Proofs.Sheet.Loading
import FormulaGrid.Proofs.Sheet.Refusal

/-! Documents with their cells in another order. The order matters only among entries that lead to
the same cell by different references: the last of these gives the cell its text. -/
namespace FormulaGrid.Sheet

open FormulaGrid.Data FormulaGrid.Failure

/-- The text that entries give to the cell at a place: that of the last one that leads there. -/
def givenText : Entries → Position → Option String
  | [], _ => none
  | (reference, content) :: entries, place =>
    (givenText entries place).or
      (if Position.ofReference? reference = some place then some (contentText content) else none)

def storeAll (cells : Entries) (sheet : Sheet) : Except SheetError Sheet :=
  cells.foldlM (fun sheet (reference, content) => sheet.store reference content) sheet

/-- Whether a text is computed without a chain of references: it is no formula, or a refused one. -/
def Chainless (text : String) : Prop :=
  isFormulaText text → ∃ fault, Formula.validate text = .error fault

/-- The sheet of a document before any text is stored. -/
def emptyOf (entries : Entries) (maxDepth : Int) : Except SheetError Sheet := do
  let rows ← wholeEntry "rows" defaultSize entries
  let columns ← wholeEntry "columns" defaultSize entries
  let name ← nameEntry entries
  make name maxDepth rows columns

/-- Whether an entry's reference leads into a sheet and its content can be written. -/
def Storable (rows columns : Nat) (entry : String × Data) : Prop :=
  entry.2.isWritable ∧ ∃ place, Position.ofReference? entry.1 = some place ∧
    place.row < rows ∧ place.column < columns

theorem chainless_empty : Chainless "" := by
  intro formula
  cases formula

section Given

variable {cells reordered : Entries} {place : Position} {text : String}

theorem exists_of_givenText (given : givenText cells place = some text) :
    ∃ entry ∈ cells, Position.ofReference? entry.1 = some place ∧ contentText entry.2 = text := by
  induction cells with
  | nil => cases given
  | cons entry cells ih =>
    rcases Option.or_eq_some_iff.1 given with later | ⟨_, here⟩
    · obtain ⟨other, member, leads⟩ := ih later
      exact ⟨other, List.mem_cons_of_mem _ member, leads⟩
    · rw [Option.ite_none_right_eq_some] at here
      exact ⟨entry, List.mem_cons_self .., here.1, Option.some.inj here.2⟩

theorem isSome_givenText :
    (givenText cells place).isSome ↔
      ∃ entry ∈ cells, Position.ofReference? entry.1 = some place := by
  induction cells with
  | nil => simp [givenText]
  | cons entry cells ih =>
    rw [givenText, Option.isSome_or, Bool.or_eq_true, ih, List.exists_mem_cons_iff, or_comm]
    simp

theorem isSome_givenText_perm (permuted : cells.Perm reordered) :
    (givenText cells place).isSome = (givenText reordered place).isSome := by
  rw [Bool.eq_iff_iff, isSome_givenText, isSome_givenText]
  exact exists_congr fun entry => and_congr_left' permuted.mem_iff

theorem givenText_perm (permuted : cells.Perm reordered)
    (agree : ∀ first ∈ cells, ∀ second ∈ cells,
      Position.ofReference? first.1 = some place → Position.ofReference? second.1 = some place →
        contentText first.2 = contentText second.2) :
    givenText cells place = givenText reordered place := by
  have both : (givenText cells place).isSome = (givenText reordered place).isSome :=
    isSome_givenText_perm permuted
  cases given : givenText cells place with
  | none =>
    rw [given] at both
    exact (Option.not_isSome_iff_eq_none.1 (Bool.not_eq_true _ ▸ both.symm)).symm
  | some text =>
    rw [given] at both
    obtain ⟨other, given'⟩ := Option.isSome_iff_exists.1 both.symm
    obtain ⟨first, member, leads, rfl⟩ := exists_of_givenText given
    obtain ⟨second, member', leads', rfl⟩ := exists_of_givenText given'
    rw [given', agree first member second (permuted.mem_iff.2 member') leads leads']

end Given

section Storing

variable {sheet stored : Sheet} {cells : Entries} {reference : String} {content : Data}
  {position place : Position}

theorem text?_modifyAt_same {change : Cell → Cell} (text : String)
    (changed : ∀ cell, (change cell).expression = text) :
    (sheet.modifyAt position change).text? place =
      if place = position then (sheet.text? place).map fun _ => text else sheet.text? place := by
  rw [text?, cellAt?_modifyAt, text?]
  split
  · rw [Option.map_map, Option.map_map]
    exact congrArg (Option.map · (sheet.cellAt? place)) (funext changed)
  · rfl

theorem text?_store (tidy : sheet.Tidy) (kept : sheet.store reference content = .ok stored) :
    stored.text? place =
      if Position.ofReference? reference = some place then
        (sheet.text? place).map fun _ => contentText content
      else sheet.text? place := by
  unfold store at kept
  split at kept
  · cases kept
  next cell found =>
    split at kept <;> cases kept
    obtain ⟨position, read, held⟩ := cell?_eq_some_iff.1 found
    rw [(tidy.cells position cell held).placed, text?_modifyAt_same (contentText content), read]
    · simp only [Option.some.injEq, eq_comm]
    · intro former
      dsimp only
      split <;> rfl

theorem storeAll_cons (entry : String × Data) (cells : Entries) :
    storeAll (entry :: cells) sheet = sheet.store entry.1 entry.2 >>= storeAll cells :=
  List.foldlM_cons

theorem text?_storeAll (tidy : sheet.Tidy)
    (kept : storeAll cells sheet = .ok stored) :
    stored.text? place = (sheet.text? place).map fun former =>
      (givenText cells place).getD former := by
  induction cells generalizing sheet with
  | nil =>
    obtain rfl := Except.ok.inj kept
    cases sheet.text? place <;> rfl
  | cons entry cells ih =>
    rw [storeAll_cons] at kept
    obtain ⟨next, first, rest⟩ := bind_eq_ok.1 kept
    rw [ih (tidy.store first) rest, text?_store tidy first, givenText]
    cases givenText cells place <;> split <;> cases sheet.text? place <;> rfl

theorem exists_store_iff (tidy : sheet.Tidy) :
    (∃ stored, sheet.store reference content = .ok stored) ↔
      Storable sheet.rows sheet.columns (reference, content) := by
  have found : (∃ cell, sheet.cell? reference = some cell) ↔
      ∃ place, Position.ofReference? reference = some place ∧
        place.row < sheet.rows ∧ place.column < sheet.columns := by
    simp only [cell?_eq_some_iff, ← tidy.exists_cellAt?_iff]
    rw [exists_comm]
    simp only [exists_and_left]
  rw [Storable, ← found]
  unfold store
  cases sheet.cell? reference with
  | none => exact iff_of_false nofun nofun
  | some cell =>
    by_cases writable : content.isWritable
    · exact iff_of_true ⟨_, if_pos writable⟩ ⟨writable, cell, rfl⟩
    · simp [writable]

theorem exists_storeAll_iff (tidy : sheet.Tidy) :
    (∃ stored, storeAll cells sheet = .ok stored) ↔
      ∀ entry ∈ cells, Storable sheet.rows sheet.columns entry := by
  induction cells generalizing sheet with
  | nil => exact iff_of_true ⟨sheet, rfl⟩ nofun
  | cons entry cells ih =>
    rw [List.forall_mem_cons, ← exists_store_iff tidy, storeAll_cons]
    cases first : sheet.store entry.1 entry.2 with
    | ok next =>
      have rows : next.rows = sheet.rows := (congrArg Sheet.rows (store_ok first) :)
      have columns : next.columns = sheet.columns := (congrArg Sheet.columns (store_ok first) :)
      rw [ok_bind, ih (tidy.store first), rows, columns]
      exact (and_iff_right ⟨next, rfl⟩).symm
    | error error =>
      rw [error_bind]
      exact iff_of_false nofun fun both => nomatch both.1

end Storing

section Recomputing

variable {sheet other : Sheet} {position place : Position} {positions : List Position}
  {cell : Cell} {reference expression : String}

theorem text?_updateAt_own (stored : sheet.cellAt? position = some cell) (place : Position) :
    (sheet.updateAt position cell.reference cell.expression).sheet.text? place =
      sheet.text? place := by
  obtain ⟨change, changed, kept⟩ := updateAt_sheet sheet position cell.reference cell.expression
  rw [changed, text?_modifyAt_same _ fun cell => (kept cell).2.1]
  split
  next here =>
    rw [here, text?, stored]
    rfl
  next => rfl

theorem text?_recomputeAt (positions : List Position) (place : Position) :
    (recomputeAt positions sheet).sheet.text? place = sheet.text? place :=
  recomputeAt_induction (fun other => other.text? place = sheet.text? place) positions rfl
    fun _ _ _ same stored _ => (text?_updateAt_own stored place).trans same

theorem text?_recalculate (sheet : Sheet) (place : Position) :
    sheet.recalculate.sheet.text? place = sheet.text? place := by
  rw [recalculate_sheet]
  exact text?_recomputeAt (sheet.cells.map Cell.position) place

theorem outcome_ok_iff :
    (∃ outcome, sheet.outcome reference expression = .ok outcome) ↔
      0 < sheet.maxDepth ∨ ∃ fault, Formula.validate expression = .error fault := by
  cases valid : Formula.validate expression with
  | error fault => exact iff_of_true ⟨_, outcome_refused valid⟩ (.inr ⟨fault, rfl⟩)
  | ok value =>
    by_cases positive : 0 < sheet.maxDepth
    · exact iff_of_true (outcome_ok positive reference expression) (.inl positive)
    · rw [outcome_shallow (by omega) valid]
      exact iff_of_false (by rintro ⟨_, same⟩; cases same) (by simp [positive])

theorem updateAt_ok_iff :
    (∃ outcome, (sheet.updateAt position reference expression).result = .ok outcome) ↔
      0 < sheet.maxDepth ∨ Chainless expression := by
  generalize edited : sheet.modifyAt position (·.withText expression) = other
  have depth : other.maxDepth = sheet.maxDepth := by rw [← edited]; rfl
  have valued : (∃ outcome, other.outcome reference expression = .ok outcome) ↔ _ := outcome_ok_iff
  rw [depth] at valued
  by_cases formula : isFormulaText expression
  · have refused : Chainless expression ↔ ∃ fault, Formula.validate expression = .error fault :=
      ⟨fun chainless => chainless formula, fun refused _ => refused⟩
    rw [refused, ← valued]
    simp only [updateAt, edited, if_pos formula]
    cases other.outcome reference expression <;> simp [Change.of]
  · refine iff_of_true ⟨.ok (literalValue expression), ?_⟩ (.inr fun other => absurd other formula)
    rw [updateAt, if_neg formula]
    rfl

theorem recomputeAt_ok_iff :
    (∃ count, (recomputeAt positions sheet).result = .ok count) ↔
      0 < sheet.maxDepth ∨
        ∀ place ∈ positions, ∀ text, sheet.text? place = some text → Chainless text := by
  induction positions generalizing sheet with
  | nil => exact iff_of_true ⟨0, rfl⟩ (.inr (List.forall_mem_nil _))
  | cons position positions ih =>
    rw [List.forall_mem_cons]
    rcases recomputeAt_step sheet position positions with ⟨silent, same⟩ | ⟨cell, stored, _, more⟩
    · rw [same, ih]
      refine or_congr_right (and_iff_right fun text held => ?_).symm
      obtain ⟨cell, stored, rfl⟩ := Option.map_eq_some_iff.1 held
      rw [silent cell stored]
      exact chainless_empty
    · have held : sheet.text? position = some cell.expression := by rw [text?, stored]; rfl
      have updated : (∃ outcome, (sheet.updateAt position cell.reference cell.expression).result =
          .ok outcome) ↔ _ := updateAt_ok_iff
      simp only [held, Option.some.injEq, forall_eq']
      rcases more with ⟨error, failed, failed', _⟩ | ⟨outcome, done, result, _⟩
      · rw [failed] at updated
        rw [failed']
        have neither := mt updated.2 (by rintro ⟨_, same⟩; cases same)
        exact iff_of_false (by rintro ⟨_, same⟩; cases same)
          fun either => neither (either.imp_right And.left)
      · have computed := updated.1 ⟨outcome, done⟩
        have depth : (sheet.updateAt position cell.reference cell.expression).sheet.maxDepth =
            sheet.maxDepth := (congrArg Sheet.maxDepth (frame_updateAt ..) :)
        have counted : (∃ count, (recomputeAt (position :: positions) sheet).result = .ok count) ↔
            ∃ count, (recomputeAt positions
              (sheet.updateAt position cell.reference cell.expression).sheet).result =
                .ok count := by
          rw [result]
          constructor
          · rintro ⟨_, mapped⟩
            obtain ⟨count, rest, _⟩ := map_eq_ok.1 mapped
            exact ⟨count, rest⟩
          · rintro ⟨count, rest⟩
            exact ⟨count + 1, map_eq_ok.2 ⟨count, rest, rfl⟩⟩
        rw [counted, ih, depth]
        simp only [text?_updateAt_own stored]
        rcases computed with positive | chainless
        · exact iff_of_true (.inl positive) (.inl positive)
        · rw [and_iff_right chainless]

theorem recalculate_ok_iff (tidy : sheet.Tidy) :
    (∃ count, sheet.recalculate.result = .ok count) ↔
      0 < sheet.maxDepth ∨ ∀ place text, sheet.text? place = some text → Chainless text := by
  rw [recalculate_result, recomputeAt_ok_iff]
  refine or_congr_right ⟨fun visited place text held => ?_, fun all place _ => all place⟩
  obtain ⟨cell, stored, _⟩ := Option.map_eq_some_iff.1 held
  refine visited place (List.mem_map.2 ⟨cell, ?_, ?_⟩) text held
  · exact mem_cells_iff.2 ⟨place, stored⟩
  · exact (tidy.cells place cell stored).placed

/-- A cell whose text needs no chain shows what any other cell with the text shows. -/
theorem eq_of_chainless {former : Cell} (tidy : cell.Tidy place) (before : former.Tidy place)
    (text : cell.expression = former.expression) (chainless : Chainless cell.expression)
    (shown : cell.ShowsRefusal) (shown' : former.ShowsRefusal) : cell = former := by
  have placed : cell.position = former.position := tidy.placed.trans before.placed.symm
  have same : cell.value = former.value ∧ cell.error = former.error := by
    cases formula : cell.isFormula with
    | false =>
      have plain : former.isFormula = false := (congrArg isFormulaText text).symm.trans formula
      obtain ⟨value, error⟩ := tidy.shown formula
      obtain ⟨value', error'⟩ := before.shown plain
      rw [value, value', error, error', text]
      exact ⟨rfl, rfl⟩
    | true =>
      have formula' : former.isFormula = true := (congrArg isFormulaText text).symm.trans formula
      obtain ⟨fault, refused⟩ := chainless formula
      obtain ⟨value, error⟩ := shown fault formula refused
      obtain ⟨value', error'⟩ := shown' fault formula' (text ▸ refused)
      rw [value, value', error, error']
      exact ⟨rfl, rfl⟩
  obtain ⟨row, column, expression, value, error⟩ := cell
  obtain ⟨row', column', expression', value', error'⟩ := former
  obtain ⟨rfl, rfl⟩ := same
  cases placed
  cases text
  rfl

/-- Sheets with the same texts are recalculated alike, where chains can be built or not. -/
theorem recalculate_congr {count : Nat} (tidy : sheet.Tidy) (before : other.Tidy)
    (same : SameTexts sheet other) (named : sheet.name = other.name)
    (done : sheet.recalculate.result = .ok count) :
    (∃ count, other.recalculate.result = .ok count) ∧
      other.recalculate.sheet = sheet.recalculate.sheet := by
  have computed := (recalculate_ok_iff tidy).1 ⟨count, done⟩
  have computed' := computed
  simp only [same.maxDepth, same.texts] at computed'
  obtain ⟨count', done'⟩ := (recalculate_ok_iff before).2 computed'
  refine ⟨⟨count', done'⟩, ?_⟩
  rcases computed with positive | chainless
  · rw [recalculate_same tidy before positive same, ← named]
    exact congrArg (fun frame : Sheet => { sheet.recalculate.sheet with name := frame.name })
      (frame_recalculate sheet).symm
  · have frames : other.recalculate.sheet.frame = sheet.recalculate.sheet.frame := by
      rw [frame_recalculate, frame_recalculate]
      simp [frame, named, same.rows, same.columns, same.maxDepth]
    have rows : other.recalculate.sheet.rows = sheet.recalculate.sheet.rows :=
      (congrArg Sheet.rows frames :)
    have final := tidy.recalculate
    have final' := before.recalculate
    refine sheet_ext frames (grid_ext (by rw [final.length, final'.length, rows]) fun place => ?_)
    have text : other.recalculate.sheet.text? place = sheet.recalculate.sheet.text? place := by
      rw [text?_recalculate, text?_recalculate, same.texts]
    unfold text? at text
    cases stored : sheet.recalculate.sheet.cellAt? place with
    | none =>
      rw [stored, Option.map_none, Option.map_eq_none_iff] at text
      exact text
    | some cell =>
      rw [stored] at text
      obtain ⟨former, stored', expression⟩ := Option.map_eq_some_iff.1 text
      have held : sheet.text? place = some cell.expression := by
        rw [← text?_recalculate, text?, stored]
        rfl
      rw [stored', eq_of_chainless (final.cells place cell stored)
        (final'.cells place former stored') expression.symm (chainless place _ held)
        (showsRefusal_recalculate tidy done cell stored)
        (showsRefusal_recalculate before done' former stored')]

end Recomputing

section Documents

variable {sheet stored start : Sheet} {entries cells reordered : Entries} {maxDepth : Int}

theorem lookup_put_of_ne {key other : String} (differs : key ≠ other) (value : Data)
    (entries : Entries) : lookup other (put key value entries) = lookup other entries := by
  induction entries with
  | nil => simp [put, lookup, differs]
  | cons entry entries ih =>
    unfold lookup at ih ⊢
    rw [put]
    split
    next same =>
      obtain rfl := beq_iff_eq.1 same
      simp [differs]
    next =>
      rw [List.find?_cons, List.find?_cons]
      split
      · rfl
      · exact ih

theorem emptyOf_put_cells (content : Data) (entries : Entries) :
    emptyOf (put "cells" content entries) maxDepth = emptyOf entries maxDepth := by
  have rows := lookup_put_of_ne (by decide : "cells" ≠ "rows") content entries
  have columns := lookup_put_of_ne (by decide : "cells" ≠ "columns") content entries
  have name := lookup_put_of_ne (by decide : "cells" ≠ "name") content entries
  simp only [emptyOf, wholeEntry, nameEntry, rows, columns, name]

theorem cellEntries_mapping (found : lookup "cells" entries = some (.mapping cells)) :
    cellEntries entries = .ok cells := by
  unfold cellEntries
  rw [found]
  cases cells <;> rfl

theorem ofEntries_ok_iff (ordered : cellEntries entries = .ok cells) :
    ofEntries entries maxDepth = .ok stored ↔
      ∃ start, emptyOf entries maxDepth = .ok start ∧ storeAll cells start = .ok stored := by
  rw [ofEntries, ordered, ok_bind, ← bind_eq_ok, emptyOf]
  simp only [bind_assoc]
  rfl

theorem ofData_ok_iff :
    (ofData (.mapping entries) maxDepth).result = .ok sheet ↔
      ∃ stored count, ofEntries entries maxDepth = .ok stored ∧
        stored.recalculate.result = .ok count ∧ stored.recalculate.sheet = sheet := by
  cases kept : ofEntries entries maxDepth with
  | error error =>
    rw [ofData_error kept]
    exact iff_of_false nofun nofun
  | ok stored =>
    have made : (ofData (.mapping entries) maxDepth).result =
        stored.recalculate.result.map fun _ => stored.recalculate.sheet := by
      rw [ofData, kept]
    rw [made, map_eq_ok]
    simp

theorem tidy_emptyOf (made : emptyOf entries maxDepth = .ok start) :
    start.Tidy ∧ ∀ place text, start.text? place = some text → text = "" := by
  obtain ⟨rows, _, made⟩ := bind_eq_ok.1 made
  obtain ⟨columns, _, made⟩ := bind_eq_ok.1 made
  obtain ⟨name, _, made⟩ := bind_eq_ok.1 made
  refine ⟨tidy_of_make made, fun place text held => ?_⟩
  unfold make at made
  split at made <;> cases made
  rw [text?, cellAt?_blank] at held
  split at held <;> cases held
  rfl

theorem storeAll_perm (tidy : start.Tidy)
    (blank : ∀ place text, start.text? place = some text → text = "")
    (permuted : cells.Perm reordered) (kept : storeAll cells start = .ok stored) :
    ∃ other, storeAll reordered start = .ok other ∧ stored.frame = other.frame ∧
      ((∀ place, stored.text? place = other.text? place) ↔
        ∀ place, givenText cells place = givenText reordered place) := by
  have inside := (exists_storeAll_iff tidy).1 ⟨stored, kept⟩
  obtain ⟨other, kept'⟩ := (exists_storeAll_iff tidy).2
    fun entry member => inside entry (permuted.mem_iff.2 member)
  refine ⟨other, kept', (frame_storeAll kept).trans (frame_storeAll kept').symm, ?_⟩
  refine forall_congr' fun place => ?_
  rw [text?_storeAll tidy kept, text?_storeAll tidy kept']
  have both : (givenText cells place).isSome = (givenText reordered place).isSome :=
    isSome_givenText_perm permuted
  cases held : start.text? place with
  | none =>
    have neither : ¬ (givenText cells place).isSome := by
      rw [isSome_givenText]
      rintro ⟨entry, member, leads⟩
      obtain ⟨_, _, read, within⟩ := inside entry member
      obtain rfl := Option.some.inj (leads.symm.trans read)
      have some_text := isSome_text? tidy place
      rw [held, decide_eq_true within] at some_text
      cases some_text
    have neither' : ¬ (givenText reordered place).isSome := both ▸ neither
    rw [Option.not_isSome_iff_eq_none.1 neither, Option.not_isSome_iff_eq_none.1 neither']
    exact iff_of_true rfl rfl
  | some former =>
    obtain rfl := blank place former held
    cases given : givenText cells place <;> cases given' : givenText reordered place <;>
      simp [given, given'] at both ⊢

/-- Reordering a document's cells leads to the same sheet just if the last of the entries that lead
to a cell gives it the same text. -/
theorem ofData_reordered (found : lookup "cells" entries = some (.mapping cells))
    (permuted : cells.Perm reordered)
    (loaded : (ofData (.mapping entries) maxDepth).result = .ok sheet) :
    let other := ofData (.mapping (put "cells" (.mapping reordered) entries)) maxDepth
    (other.result = .ok sheet ↔ ∀ place, givenText cells place = givenText reordered place) ∧
      ((∀ first ∈ cells, ∀ second ∈ cells, ∀ place, Position.ofReference? first.1 = some place →
        Position.ofReference? second.1 = some place →
          contentText first.2 = contentText second.2) → other.result = .ok sheet) := by
  intro other
  obtain ⟨stored, count, kept, done, rfl⟩ := ofData_ok_iff.1 loaded
  obtain ⟨start, made, kept⟩ := (ofEntries_ok_iff (cellEntries_mapping found)).1 kept
  obtain ⟨tidy, blank⟩ := tidy_emptyOf made
  obtain ⟨stored', kept', frames, texts⟩ := storeAll_perm tidy blank permuted kept
  have entered : ofEntries (put "cells" (.mapping reordered) entries) maxDepth = .ok stored' :=
    (ofEntries_ok_iff (cellEntries_mapping (lookup_put ..))).2
      ⟨start, (emptyOf_put_cells ..).trans made, kept'⟩
  have exact_when : other.result = .ok stored.recalculate.sheet ↔
      ∀ place, givenText cells place = givenText reordered place := by
    rw [← texts]
    constructor
    · intro loaded' place
      obtain ⟨_, _, entered', _, same⟩ := ofData_ok_iff.1 loaded'
      obtain rfl := Except.ok.inj (entered.symm.trans entered')
      rw [← text?_recalculate stored, ← same, text?_recalculate]
    · intro same
      obtain ⟨⟨count', done'⟩, final⟩ := recalculate_congr (tidy.storeAll kept)
        (tidy.storeAll kept') ⟨(congrArg Sheet.rows frames :), (congrArg Sheet.columns frames :),
          (congrArg Sheet.maxDepth frames :), same⟩ (congrArg Sheet.name frames :) done
      exact ofData_ok_iff.2 ⟨stored', count', entered, done', final⟩
  refine ⟨exact_when, fun agree => exact_when.2 fun place => ?_⟩
  exact givenText_perm permuted fun first member second member' =>
    agree first member second member' place

theorem ofData_reordered_formula :
    let cells : Entries := [("A1", .text "=B1"), ("B1", .text "7")]
    let document (cells : Entries) : Entries :=
      [("rows", .integer 1), ("columns", .integer 2), ("cells", .mapping cells)]
    ∃ sheet, (ofData (.mapping (document cells)) 64).result = .ok sheet ∧
      (ofData (.mapping (document cells.reverse)) 64).result = .ok sheet := by
  intro cells document
  obtain ⟨stored, kept⟩ : ∃ stored, ofEntries (document cells) 64 = .ok stored := ⟨_, rfl⟩
  obtain ⟨sheet, loaded⟩ := (ofData_ok (by decide) kept).1
  have found : lookup "cells" (document cells) = some (.mapping cells) := rfl
  have replaced : put "cells" (.mapping cells.reverse) (document cells) =
      document cells.reverse := rfl
  obtain ⟨_, agreeing⟩ := ofData_reordered found (List.reverse_perm cells).symm loaded
  rw [replaced] at agreeing
  refine ⟨sheet, loaded, agreeing ?_⟩
  have a : Position.ofReference? "A1" = some ⟨0, 0⟩ := rfl
  have b : Position.ofReference? "B1" = some ⟨0, 1⟩ := rfl
  simp [cells, a, b]

/-- Of two references to one cell the last one in a document counts. -/
theorem ofData_order_matters :
    ¬ ∀ (entries cells reordered : Entries) (maxDepth : Int) (sheet : Sheet),
      lookup "cells" entries = some (.mapping cells) → cells.Perm reordered →
      (ofData (.mapping entries) maxDepth).result = .ok sheet →
      (ofData (.mapping (put "cells" (.mapping reordered) entries)) maxDepth).result =
        .ok sheet := by
  intro same
  let cells : Entries := [("A1", .text "1"), ("A01", .text "2")]
  let entries : Entries :=
    [("rows", .integer 1), ("columns", .integer 1), ("cells", .mapping cells)]
  let shows (text : String) : Sheet := ⟨"New sheet", 64, 1, 1, [[⟨0, 0, text, .text text, none⟩]]⟩
  have found : lookup "cells" entries = some (.mapping cells) := rfl
  have loaded : (ofData (.mapping entries) 64).result = .ok (shows "2") := rfl
  have reloaded : (ofData (.mapping (put "cells" (.mapping cells.reverse) entries)) 64).result =
      .ok (shows "1") := rfl
  have equal := reloaded.symm.trans
    (same entries cells cells.reverse 64 _ found (List.reverse_perm cells).symm loaded)
  have texts := congrArg (fun sheet => sheet.text? ⟨0, 0⟩) (Except.ok.inj equal)
  exact absurd (Option.some.inj texts) (by decide)

end Documents

end FormulaGrid.Sheet
