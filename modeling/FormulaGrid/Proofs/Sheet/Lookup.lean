import FormulaGrid.Proofs.Nesting
import FormulaGrid.Proofs.Sheet.Equations
import FormulaGrid.Proofs.Sheet.History

/-! A cell read through a formula that is nothing but a reference to it, against the value that the
sheet holds for it. The sheet and the formula go by different tests of what a formula is, but these
differ in the bare equals sign only; and a formula that is followed from elsewhere comes to what it
came to in its own cell, under whatever spelling it was referred to. -/
namespace FormulaGrid.Sheet

open FormulaGrid.Evaluation FormulaGrid.Failure FormulaGrid.Formula FormulaGrid.Grammar
open FormulaGrid.Text

section Lookup

variable {sheet : Sheet} {cell : Cell} {chain : Chain} {name reference : String} {place : Nat}

theorem referenceValue_settled (positive : 0 < sheet.maxDepth)
    (settled : ∀ cell ∈ sheet.cells, sheet.settle cell = cell)
    (found : sheet.cell? name = some cell) (fine : cell.error = none)
    (depth : chain.maxDepth = sheet.maxDepth.toNat) (fresh : chain.references = []) :
    referenceValue (some sheet.accessor) chain none ⟨.cellReference, name, place⟩ =
      .ok cell.shown.cachedValue := by
  have resolved : (some sheet.accessor).bind (· name) = some cell.snapshot :=
    Option.map_eq_some_iff.2 ⟨cell, found, rfl⟩
  obtain ⟨position, _, stored⟩ := cell?_eq_some_iff.1 found
  have member := mem_cells_iff.2 ⟨position, stored⟩
  refine referenceValue_ok_iff.2 ⟨by simp [fresh], cell.snapshot, resolved, ?_⟩
  split
  next starts =>
    have absent : name ∉ chain.references := by simp [fresh]
    have room : 0 < chain.room := by
      rw [Chain.room, fresh, depth]
      exact Chain.toNat_pos positive
    obtain ⟨inner, entered⟩ := exists_enter_iff.2 ⟨absent, room⟩
    refine ⟨inner, none, entered, rfl, ?_⟩
    rcases startsFormula_cases starts with formula | bare
    · change isFormulaText cell.expression at formula
      obtain ⟨healthy, shows⟩ := settled_iff positive formula (settled cell member)
      obtain ⟨v, valued⟩ := healthy.1 fine
      have free : evaluateWithin (some sheet.accessor) (sheet.chainOf positive cell) none
          cell.expression = .ok v := value_of_looser (Looser.refl _) trivial valued
      have sound : Sound (some sheet.accessor) (sheet.chainOf positive cell)
          cell.snapshot.rawExpression := sound_of_value free
      -- The cell was computed under its own reference, and is followed under the name at hand,
      -- which may be another spelling of it.
      have alone : inner.references = [name] := by
        rw [Chain.references_enter entered, fresh, List.nil_append]
      have again := sound.restart resolved starts
        (by simp [references_chainOf]) alone ((Chain.maxDepth_enter entered).trans depth)
      rw [Cell.shown, isBareSign_of_isFormulaText formula, shows v valued]
      exact value_of_sound free again trivial
    · change isBareSign cell.expression at bare
      rw [Cell.shown, if_pos bare]
      exact evaluateWithin_blank _ _ _ (length_le_bodyStart bare)
  next quiet =>
    have visible : ¬ isBareSign cell.expression := fun bare =>
      quiet (startsFormula_of_isBareSign bare)
    rw [Cell.shown, if_neg visible]
    rfl

theorem exists_token (named : sheet.cell? reference = some cell)
    (lexed : Token.tokenize reference 0 =
      .ok [⟨.cellReference, name, place⟩, Token.finish reference.length]) :
    Token.bodyStart reference = 0 ∧ sheet.cell? name = some cell := by
  obtain ⟨position, read, stored⟩ := cell?_eq_some_iff.1 named
  have segments : Token.Segments 0 reference.toList _ := Token.scan_ok_iff.1 lexed
  generalize whole : reference.toList = cs at segments
  have same : reference = String.ofList cs := by rw [← whole, String.ofList_toList]
  cases segments with
  | blank _ c cs _ blank =>
    have column : reference.toList.takeWhile isAsciiUpper = [] := by
      rw [whole]
      refine List.takeWhile_cons_of_neg fun upper => ?_
      rw [isBlank_of_upper upper] at blank
      cases blank
    rw [Position.ofReference?, Position.ofReference, column] at read
    cases read
  | token _ kind lexeme rest _ shaped ends more =>
    obtain ⟨letters, digits, rfl, lettered, upper, numbered, all⟩ := shaped.reference
    rw [List.append_assoc] at whole same
    have blank := more.blank_of_finish
    rw [same] at read
    have short := Position.ofReference?_blanks lettered upper numbered all blank read
    obtain ⟨c, others, rfl⟩ := List.exists_cons_of_ne_nil lettered
    have head : reference.toList.head? = some c := by rw [whole]; rfl
    exact ⟨Token.bodyStart_of_upper head (upper c List.mem_cons_self),
      cell?_eq_some_iff.2 ⟨position, short, stored⟩⟩

/-- A formula that is nothing but a reference to a healthy cell has the cell's value, with the bare
equals sign for empty, as far as it does not nest too deeply. -/
theorem lookup_faithful (sheet : Sheet) (recalculated : Recalculated sheet)
    (positive : 0 < sheet.maxDepth) (reference name : String) (place : Nat) (cell : Cell)
    (lexed : Token.tokenize reference 0 =
      .ok [⟨.cellReference, name, place⟩, Token.finish reference.length])
    (named : sheet.cell? reference = some cell) (fine : cell.error = none) :
    let chain := Chain.start none sheet.maxDepth.toNat (Chain.toNat_pos positive)
    let value := if isBareSign cell.expression then .empty else cell.value
    evaluateWithin (some sheet.accessor) chain none reference = .ok value ∧
      (evaluate (some sheet.accessor) chain reference = .ok value ∨
        evaluate (some sheet.accessor) chain reference = .error .nestedTooDeeply) := by
  intro chain value
  obtain ⟨_, settled⟩ := recalculated.settled positive
  obtain ⟨start, found⟩ := exists_token named lexed
  have free : evaluateWithin (some sheet.accessor) chain none reference = .ok value := by
    rw [← start] at lexed
    rw [evaluateWithin_reference lexed]
    exact referenceValue_settled positive settled found fine rfl rfl
  refine ⟨free, or_iff_not_imp_right.2 fun fits => ?_⟩
  exact (evaluateWithin_unlimited fits).trans free

theorem lookup_faithful_chained :
    let content : Data := .mapping [("rows", .integer 1), ("columns", .integer 2),
      ("cells", .mapping [("A1", .text "=B1"), ("B1", .text "x")])]
    let cell : Cell := ⟨0, 0, "=B1", .text "x", none⟩
    let sheet : Sheet := ⟨"New sheet", 64, 1, 2, [[cell, ⟨0, 1, "x", .text "x", none⟩]]⟩
    (ofData content 64).result = .ok sheet ∧
      evaluateWithin (some sheet.accessor) (Chain.start none 64 (by decide)) none "A1\n" =
        .ok (.text "x") := by
  intro content cell sheet
  have loaded : (ofData content 64).result = .ok sheet := load_mention
  have lexed : Token.tokenize "A1\n" 0 =
      .ok [⟨.cellReference, "A1", 0⟩, Token.finish "A1\n".length] := by cbv
  have named : sheet.cell? "A1\n" = some cell := rfl
  have read := lookup_faithful sheet (.loaded content 64 sheet loaded) (by decide) "A1\n" "A1" 0
    cell lexed named rfl
  have shown : (if isBareSign cell.expression then Value.empty else cell.value) = .text "x" := by
    cbv
  exact ⟨loaded, read.1.trans (congrArg Except.ok shown)⟩

theorem exists_recalculated (text : String) :
    ∃ (sheet : Sheet) (_ : 0 < sheet.maxDepth) (cell : Cell), Recalculated sheet ∧
      sheet.cell? "A1" = some cell ∧ cell.expression = text := by
  have tidy : (blank "" 64 1 1).Tidy := tidy_blank (by decide) (by decide)
  have read : Position.ofReference? "A1" = some ⟨0, 0⟩ := rfl
  have reachable : Reachable ((blank "" 64 1 1).after (.update "A1" text)) :=
    .after _ _ (.made "" 64 1 1 _ rfl)
  have held : ((blank "" 64 1 1).after (.update "A1" text)).text? ⟨0, 0⟩ = some text := by
    rw [after, text?_update tidy, if_pos read]
    rfl
  have frame : ((blank "" 64 1 1).after (.update "A1" text)).frame = (blank "" 64 1 1).frame :=
    frame_update _ _ _
  generalize (blank "" 64 1 1).after (.update "A1" text) = stored at reachable held frame
  have depth : stored.maxDepth = 64 := (congrArg Sheet.maxDepth frame :)
  have kept := congrArg Sheet.maxDepth (frame_recalculate stored)
  change stored.recalculate.sheet.maxDepth = stored.maxDepth at kept
  have positive : 0 < stored.maxDepth := by omega
  rw [(sameTexts_settle stored).texts, ← (recalculate_eq reachable.tidy positive).2] at held
  obtain ⟨cell, found, same⟩ := Option.map_eq_some_iff.1 held
  exact ⟨_, by omega, cell, .recalculated stored reachable,
    cell?_eq_some_iff.2 ⟨⟨0, 0⟩, read, found⟩, same⟩

/-- A formula that takes all of the allowance in its own cell cannot be read from elsewhere, since
the reference takes its share as well. -/
theorem lookup_exhausted (n : Nat) (fits : n ≤ 960) (exceeds : 954 < n) :
    ∃ (sheet : Sheet) (positive : 0 < sheet.maxDepth) (cell : Cell), Recalculated sheet ∧
      sheet.cell? "A1" = some cell ∧ cell.error = none ∧
      evaluate (some sheet.accessor)
        (Chain.start none sheet.maxDepth.toNat (Chain.toNat_pos positive)) "A1" =
          .error .nestedTooDeeply := by
  obtain ⟨sheet, positive, cell, recalculated, found, text⟩ := exists_recalculated (negatedText n)
  obtain ⟨position, _, stored⟩ := cell?_eq_some_iff.1 found
  have settled := (recalculated.settled positive).2 cell (mem_cells_iff.2 ⟨position, stored⟩)
  have starts : startsFormula cell.expression :=
    startsFormula_iff.2 ⟨negated n, by rw [text, negatedText, String.toList_ofList]; rfl⟩
  have formula : cell.isFormula := by
    refine (startsFormula_cases starts).resolve_right fun bare => ?_
    have blank := length_le_bodyStart bare
    rw [text] at blank
    exact absurd (visible_negatedText n) (Nat.not_lt.2 blank)
  obtain ⟨v, valued⟩ := (evaluateWithin_negated (some sheet.accessor)
    (sheet.chainOf positive cell) n 960).1 fits
  have fine := (settled_iff positive formula settled).1.2 ⟨v, by rw [text]; exact valued⟩
  refine ⟨sheet, positive, cell, recalculated, found, fine, ?_⟩
  have lexed : Token.tokenize "A1" (Token.bodyStart "A1") =
      .ok [⟨.cellReference, "A1", 0⟩, Token.finish "A1".length] := by cbv
  let chain := Chain.start none sheet.maxDepth.toNat (Chain.toNat_pos positive)
  have resolved : (some sheet.accessor).bind (· "A1") = some cell.snapshot :=
    Option.map_eq_some_iff.2 ⟨cell, found, rfl⟩
  have absent : "A1" ∉ chain.references := List.not_mem_nil
  obtain ⟨inner, entered⟩ := exists_enter_iff.2 ⟨absent, Chain.toNat_pos positive⟩
  have deep : evaluateWithin (some sheet.accessor) inner (some 954) cell.snapshot.rawExpression =
      .error .nestedTooDeeply := by
    rw [Cell.snapshot, text]
    exact (evaluateWithin_negated _ inner n 954).2 exceeds
  have spent : Allowance.spend Allowance.reference Allowance.standard = .ok (some 954) := rfl
  have followed : cell.snapshot.isFormula := starts
  change evaluateWithin _ chain _ _ = _
  rw [evaluateWithin_followed lexed resolved followed entered spent, deep]
  rfl

/-- The bare equals sign is a text for its own cell, and empty for those who refer to it. -/
theorem lookup_bare_sign :
    ¬ ∀ (sheet : Sheet) (positive : 0 < sheet.maxDepth) (reference name : String) (place : Nat)
      (cell : Cell), Recalculated sheet →
      Token.tokenize reference 0 =
        .ok [⟨.cellReference, name, place⟩, Token.finish reference.length] →
      sheet.cell? reference = some cell → cell.error = none →
      evaluate (some sheet.accessor)
        (Chain.start none sheet.maxDepth.toNat (Chain.toNat_pos positive)) reference =
          .ok cell.value := by
  intro faithful
  let content : Data := .mapping [("rows", .integer 1), ("columns", .integer 1),
    ("cells", .mapping [("A1", .text "=")])]
  let cell : Cell := ⟨0, 0, "=", .text "=", none⟩
  let sheet : Sheet := ⟨"New sheet", 64, 1, 1, [[cell]]⟩
  have loaded : (ofData content 64).result = .ok sheet := rfl
  have lexed : Token.tokenize "A1" 0 =
      .ok [⟨.cellReference, "A1", 0⟩, Token.finish "A1".length] := by cbv
  have read := faithful sheet (by decide) "A1" "A1" 0 cell (.loaded content 64 sheet loaded) lexed
    (by cbv) rfl
  let chain := Chain.start none sheet.maxDepth.toNat (by decide)
  obtain ⟨inner, entered⟩ : ∃ inner, chain.enter "A1" = .ok inner := ⟨_, rfl⟩
  have empty : evaluate (some sheet.accessor) chain "A1" = .ok .empty := by
    have found : (some sheet.accessor).bind (· "A1") = some cell.snapshot := rfl
    rw [evaluate, evaluateWithin_followed lexed found (by decide) entered rfl,
      evaluateWithin_blank _ _ _ (by decide)]
    rfl
  rw [empty] at read
  cases read

end Lookup

end FormulaGrid.Sheet
