import FormulaGrid.Host
import FormulaGrid.Proofs.FormulaText
import FormulaGrid.Proofs.Parallel
import FormulaGrid.Proofs.Sheet.Shape

/-! A sheet as plain data: the texts of its cells by their references. Formulas come to the same
among these as in the sheet, whatever the sheet has computed so far, if all of them spell rows
without zeros in front. -/
namespace FormulaGrid

open FormulaGrid.Evaluation FormulaGrid.Failure FormulaGrid.Grammar FormulaGrid.Text
open FormulaGrid.Position (referenceOf_ok_iff)

/-- What a cell holds as plain data, which is its text unless that is blank. -/
def Cell.content (cell : Cell) : Content :=
  .data (if (trim cell.expression.toList).isEmpty then .null else .text cell.expression)

def Sheet.contents (sheet : Sheet) : List (String × Content) :=
  sheet.cells.filterMap fun cell =>
    (Position.referenceOf cell.row cell.column).toOption.map (·, cell.content)

theorem find_entry {α : Type} {entries : List (String × α)} {name : String} {found : Option α}
    (only : ∀ a, (name, a) ∈ entries ↔ found = some a) :
    entries.find? (·.1 == name) = found.map (name, ·) := by
  cases first : entries.find? (·.1 == name) with
  | none =>
    cases found with
    | none => rfl
    | some a =>
      have missing := List.find?_eq_none.1 first (name, a) ((only a).2 rfl)
      exact absurd (beq_self_eq_true name) missing
  | some entry =>
    obtain ⟨key, a⟩ := entry
    have named := List.find?_some first
    obtain rfl : key = name := beq_iff_eq.1 named
    rw [(only a).1 (List.mem_of_find?_eq_some first)]
    rfl

section Contents

variable {contents : List (String × Content)} {cells : Cells}

theorem exists_ofContents
    (shown : ∀ entry ∈ contents, ∃ cell, entry.2.toSnapshot entry.1 = .ok cell) :
    ∃ cells, Cells.ofContents contents = .ok cells := by
  induction contents with
  | nil => exact ⟨[], rfl⟩
  | cons entry contents ih =>
    obtain ⟨⟨cell, first⟩, others⟩ := List.forall_mem_cons.1 shown
    obtain ⟨cells, more⟩ := ih others
    refine ⟨(entry.1, cell) :: cells, ?_⟩
    unfold Cells.ofContents at more ⊢
    rw [List.mapM_cons, more]
    dsimp only
    rw [first]
    rfl

theorem accessor_ofContents (made : Cells.ofContents contents = .ok cells) (name : String) :
    cells.accessor name = (contents.find? (·.1 == name)).bind
      fun entry => (entry.2.toSnapshot entry.1).toOption := by
  induction contents generalizing cells with
  | nil =>
    cases made
    rfl
  | cons entry contents ih =>
    unfold Cells.ofContents at made
    rw [List.mapM_cons] at made
    obtain ⟨shown, first, made⟩ := bind_eq_ok.1 made
    obtain ⟨others, more, made⟩ := bind_eq_ok.1 made
    obtain ⟨cell, converted, same⟩ := bind_eq_ok.1 first
    cases same
    cases made
    have rest := ih more
    unfold Cells.accessor at rest ⊢
    rw [List.find?_cons, List.find?_cons]
    cases entry.1 == name with
    | true =>
      dsimp only
      rw [Option.bind_some, converted]
      rfl
    | false => exact rest

end Contents

namespace Sheet

section Cells

variable {sheet : Sheet} {cell : Cell} {place : Position} {name : String} {content : Content}

theorem matches_content (tidy : cell.Tidy place) (reference : String) :
    ∃ shown, cell.content.toSnapshot reference = .ok shown ∧ cell.snapshot.Matches shown := by
  unfold Cell.content
  by_cases starts : startsFormula cell.expression
  · have visible : ¬ (trim cell.expression.toList).isEmpty := by
      intro blank
      rcases startsFormula_cases starts with formula | bare
      · obtain ⟨c, rest, shape⟩ := (isFormulaText_iff _).1 formula
        rw [shape] at blank
        cases blank
      · rw [beq_iff_eq.1 bare] at blank
        cases blank
    rw [if_neg visible]
    exact ⟨_, rfl, .inl ⟨starts, starts, rfl⟩⟩
  · have plain : cell.isFormula = false :=
      Bool.eq_false_iff.2 fun formula => starts (startsFormula_of_isFormulaText formula)
    have value : cell.snapshot.cachedValue = literalValue cell.expression := (tidy.shown plain).1
    rw [literalValue] at value
    split
    next blank =>
      rw [if_pos blank] at value
      have plain : ¬ startsFormula "" := by decide
      exact ⟨_, rfl, .inr ⟨starts, plain, value⟩⟩
    next visible =>
      rw [if_neg visible] at value
      exact ⟨_, rfl, .inr ⟨starts, starts, value.trans (if_neg starts).symm⟩⟩

/-- The contents hold exactly the cells that unpadded references lead to. -/
theorem Tidy.mem_contents_iff (tidy : sheet.Tidy)
    (own : ∀ place, Position.ofReference? name = some place → place.reference = name) :
    (name, content) ∈ sheet.contents ↔ (sheet.cell? name).map Cell.content = some content := by
  unfold contents
  rw [List.mem_filterMap, Option.map_eq_some_iff]
  constructor
  · rintro ⟨cell, member, entry⟩
    obtain ⟨reference, written, same⟩ := Option.map_eq_some_iff.1 entry
    obtain ⟨rfl, rfl⟩ := Prod.mk.inj same
    obtain ⟨readable, rfl⟩ := referenceOf_ok_iff.1 (toOption_eq_some.1 written)
    refine ⟨cell, cell?_eq_some_iff.2 ⟨cell.position, ?_, tidy.cellAt?_position member⟩, rfl⟩
    exact Position.ofReference?_reference readable
  · rintro ⟨cell, found, rfl⟩
    obtain ⟨place, read, stored⟩ := cell?_eq_some_iff.1 found
    obtain rfl := (tidy.cells place cell stored).placed
    refine ⟨cell, mem_cells_iff.2 ⟨_, stored⟩, ?_⟩
    have written : Position.referenceOf cell.row cell.column = .ok name :=
      referenceOf_ok_iff.2 ⟨Position.readable_of_ofReference? read, own _ read⟩
    rw [written]
    rfl

theorem Tidy.exists_cells (tidy : sheet.Tidy) :
    ∃ cells, Cells.ofContents sheet.contents = .ok cells := by
  refine exists_ofContents fun entry member => ?_
  obtain ⟨cell, inside, written⟩ := List.mem_filterMap.1 member
  obtain ⟨reference, _, rfl⟩ := Option.map_eq_some_iff.1 written
  obtain ⟨place, stored⟩ := mem_cells_iff.1 inside
  obtain ⟨shown, converted, _⟩ := matches_content (tidy.cells place cell stored) reference
  exact ⟨shown, converted⟩

theorem Tidy.rel_accessor {cells : Cells} (tidy : sheet.Tidy)
    (made : Cells.ofContents sheet.contents = .ok cells)
    (own : ∀ place, Position.ofReference? name = some place → place.reference = name) :
    Option.Rel Snapshot.Matches (sheet.accessor name) (cells.accessor name) := by
  rw [accessor_ofContents made, find_entry fun content => tidy.mem_contents_iff own, accessor]
  cases found : sheet.cell? name with
  | none => exact .none
  | some cell =>
    obtain ⟨place, _, stored⟩ := cell?_eq_some_iff.1 found
    obtain ⟨shown, converted, same⟩ := matches_content (tidy.cells place cell stored) name
    simp only [Option.map_some, Option.bind_some, converted]
    exact .some same

end Cells

section Mentions

variable {sheet : Sheet} {text name : String}

theorem exists_spelled_of_mentions (mentioned : name ∈ mentions text) :
    ∃ column row, Position.Spelled name column row := by
  cases lexed : Token.tokenize text (Token.bodyStart text) with
  | error error =>
    rw [mentions, lexed] at mentioned
    cases mentioned
  | ok tokens =>
    obtain ⟨token, member, refers, rfl⟩ := (mem_mentions_iff lexed).1 mentioned
    have shaped := (Token.scan_ok_iff.1 lexed).shaped member (by simp [refers])
    rw [refers] at shaped
    obtain ⟨column, row, whole, lettered, upper, numbered, digits⟩ := shaped.reference
    refine ⟨column, row, ?_, lettered, upper, numbered, digits⟩
    rw [← whole, String.ofList_toList]

/-- Whether a name counts: it is spelled as formulas spell references, with no zeros in front of its
row. -/
def Plain (name : String) : Prop :=
  Position.Unpadded name ∧ ∃ column row, Position.Spelled name column row

theorem Plain.own {place : Position} (plain : Plain name)
    (read : Position.ofReference? name = some place) : place.reference = name := by
  obtain ⟨unpadded, column, row, spelled⟩ := plain
  exact spelled.reference unpadded read

theorem plain_of_mentions (unpadded : ∀ name ∈ mentions text, Position.Unpadded name) (name : String)
    (mentioned : name ∈ mentions text) : Plain name :=
  ⟨unpadded name mentioned, exists_spelled_of_mentions mentioned⟩

theorem Tidy.matching_contents {cells : Cells} (tidy : sheet.Tidy)
    (made : Cells.ofContents sheet.contents = .ok cells)
    (unpadded : ∀ cell ∈ sheet.cells, cell.isFormula →
      ∀ name ∈ mentions cell.expression, Position.Unpadded name) :
    Matching Plain (some sheet.accessor) (some cells.accessor) where
  given := rfl
  cells name plain := tidy.rel_accessor made fun _ => plain.own
  closed name snapshot _ found formula next mentioned := by
    obtain ⟨cell, held, rfl⟩ := Option.map_eq_some_iff.1 found
    obtain ⟨place, _, stored⟩ := cell?_eq_some_iff.1 held
    rcases startsFormula_cases formula with formula | bare
    · exact plain_of_mentions (unpadded cell (mem_cells_iff.2 ⟨place, stored⟩) formula) next
        mentioned
    -- The bare sign is a formula for those who refer to it only, and mentions nothing.
    · rw [mentions_blank (length_le_bodyStart bare)] at mentioned
      cases mentioned

end Mentions

/-- A sheet and the mapping of its texts are the same to every formula, whatever the sheet has
computed, if no formula spells a row with zeros in front. -/
theorem evaluateWithin_contents {sheet : Sheet} (reachable : Reachable sheet) :
    ∃ cells, Cells.ofContents sheet.contents = .ok cells ∧
      ∀ (text : String) (chain : Chain) (allowance : Allowance),
        (∀ name ∈ mentions text, Position.Unpadded name) →
        (∀ cell ∈ sheet.cells, cell.isFormula →
          ∀ name ∈ mentions cell.expression, Position.Unpadded name) →
        evaluateWithin (some sheet.accessor) chain allowance text =
          evaluateWithin (some cells.accessor) chain allowance text := by
  have tidy := reachable.tidy
  obtain ⟨cells, made⟩ := tidy.exists_cells
  refine ⟨cells, made, fun text chain allowance mentioned unpadded => ?_⟩
  exact evaluateWithin_matching (tidy.matching_contents made unpadded)
    (plain_of_mentions mentioned) chain allowance

theorem evaluateWithin_contents_stale :
    let filled : Cell := ⟨0, 1, "x", .text "x", none⟩
    let sheet := ((blank "" 64 1 2).after (.update "A1" "=B1")).after (.update "B1" "x")
    sheet.cells = [⟨0, 0, "=B1", .empty, none⟩, filled] ∧
      ∃ cells, Cells.ofContents sheet.contents = .ok cells ∧
        evaluateWithin (some sheet.accessor) (Chain.start none 4 (by decide)) Allowance.standard
            "A1" =
          evaluateWithin (some cells.accessor) (Chain.start none 4 (by decide)) Allowance.standard
            "A1" := by
  intro filled sheet
  have made : make "" 64 1 2 = .ok (blank "" 64 1 2) := rfl
  have reachable : Reachable sheet := .after _ _ (.after _ _ (.made _ _ _ _ _ made))
  have text : Sheet.after ⟨"", 64, 1, 2, [[⟨0, 0, "=B1", .empty, none⟩, .blank 0 1]]⟩
      (.update "B1" "x") = ⟨"", 64, 1, 2, [[⟨0, 0, "=B1", .empty, none⟩, filled]]⟩ := rfl
  have whole : sheet = ⟨"", 64, 1, 2, [[⟨0, 0, "=B1", .empty, none⟩, filled]]⟩ :=
    (congrArg (·.after (.update "B1" "x")) after_mention).trans text
  have held : sheet.cells = [⟨0, 0, "=B1", .empty, none⟩, filled] := by
    rw [whole]
    rfl
  have mentioned : mentions "A1" = ["A1"] := by cbv
  have inside : mentions "=B1" = ["B1"] := by cbv
  obtain ⟨cells, mapped, same⟩ := evaluateWithin_contents reachable
  refine ⟨held, cells, mapped, same "A1" _ _ ?_ ?_⟩
  · rw [mentioned]
    refine List.forall_mem_singleton.2 fun digits zero => ?_
    cases zero
  · rw [held]
    refine List.forall_mem_cons.2 ⟨fun _ => ?_, List.forall_mem_singleton.2 fun formula => ?_⟩
    · rw [inside]
      refine List.forall_mem_singleton.2 fun digits zero => ?_
      cases zero
    · exact absurd formula (by decide)

end Sheet
end FormulaGrid
