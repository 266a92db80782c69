import FormulaGrid.Proofs.Body
import FormulaGrid.Sheet.Cell

/-! When a text counts as a formula. A cell takes its text for a formula if something follows the
equals sign, those who mention the cell if there is an equals sign at all. In between there is the
bare equals sign, whose value is empty wherever it is evaluated. -/
namespace FormulaGrid

open FormulaGrid.Text FormulaGrid.Token

/-- Whether a text is nothing but an equals sign, whitespace aside. -/
def isBareSign (text : String) : Bool :=
  trim text.toList == ['=']

section Trimmed

variable {cs rest : List Char} {c : Char} {text : String}

theorem trim_of_dropBlank_nil (nothing : dropBlank cs = []) : trim cs = [] := by
  have dropped : cs.dropWhile isBlank = [] := nothing
  rw [trim, trimWhere, dropped]
  rfl

theorem trim_of_dropBlank_cons (shape : dropBlank cs = c :: rest) :
    trim cs = c :: (rest.reverse.dropWhile isBlank).reverse := by
  have visible : isBlank c = false := head_dropBlank (by rw [shape]; rfl)
  have dropped : cs.dropWhile isBlank = c :: rest := shape
  rw [trim, trimWhere, dropped, List.reverse_cons, List.dropWhile_append]
  split
  next nothing =>
    rw [List.isEmpty_iff.1 nothing, List.dropWhile_cons_of_neg (by simp [visible])]
    rfl
  next => rw [List.reverse_append]; rfl

theorem startsFormula_iff : startsFormula text ↔ ∃ rest, dropBlank text.toList = '=' :: rest := by
  rw [startsFormula, beq_iff_eq, List.head?_eq_some_iff]

theorem startsFormula_cases (starts : startsFormula text) :
    isFormulaText text ∨ isBareSign text := by
  obtain ⟨rest, shape⟩ := startsFormula_iff.1 starts
  rw [isFormulaText, isBareSign, trim_of_dropBlank_cons shape]
  cases (rest.reverse.dropWhile isBlank).reverse <;> simp

theorem startsFormula_of_trim {more : List Char} (shape : trim text.toList = '=' :: more) :
    startsFormula text := by
  cases dropped : dropBlank text.toList with
  | nil =>
    rw [trim_of_dropBlank_nil dropped] at shape
    cases shape
  | cons c rest =>
    rw [trim_of_dropBlank_cons dropped] at shape
    obtain ⟨rfl, _⟩ := List.cons_eq_cons.1 shape
    exact startsFormula_iff.2 ⟨rest, dropped⟩

theorem startsFormula_of_isFormulaText (formula : isFormulaText text) : startsFormula text := by
  unfold isFormulaText at formula
  split at formula
  next shape => exact startsFormula_of_trim shape
  next => cases formula

theorem startsFormula_of_isBareSign (bare : isBareSign text) : startsFormula text :=
  startsFormula_of_trim (beq_iff_eq.1 bare)

theorem isBareSign_of_isFormulaText (formula : isFormulaText text) : isBareSign text = false := by
  unfold isFormulaText at formula
  split at formula
  next shape => rw [isBareSign, shape]; rfl
  next => cases formula

theorem isFormulaText_of_isBareSign (bare : isBareSign text) : isFormulaText text = false := by
  rw [isFormulaText, beq_iff_eq.1 bare]
  rfl

theorem length_le_bodyStart (bare : isBareSign text) : text.length ≤ bodyStart text := by
  obtain ⟨rest, shape⟩ := startsFormula_iff.1 (startsFormula_of_isBareSign bare)
  have trimmed := beq_iff_eq.1 bare
  rw [trim_of_dropBlank_cons shape, List.cons_eq_cons, List.reverse_eq_nil_iff,
    List.dropWhile_eq_nil_iff] at trimmed
  have nothing : body text.toList = [] := by
    rw [body, shape]
    exact List.dropWhile_eq_nil_iff.2 fun c member => trimmed.2 c (List.mem_reverse.2 member)
  change text.length ≤ text.length - (body text.toList).length
  rw [nothing]
  exact Nat.le_refl _

end Trimmed

end FormulaGrid
