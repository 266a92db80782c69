import FormulaGrid.Proofs.Position.Reference

/-! The cells and their references. A cell has one reference that is printed for it. Many more are
read, with zeros in front of the row, with digits of other scripts or with a line break behind it,
and all that are read as one cell have the same letters and the same number. -/
namespace FormulaGrid.Position

open FormulaGrid.Text

/-- Whether a text is spelled as references are printed, with no zero in front of the row. -/
def Canonical (text : String) : Prop :=
  ∃ column row, Spelled text column row ∧ row.head? ≠ some '0'

section Spelling

variable {text other : String} {column letters : List Char} {digits figures : List Nat}
  {position place : Position}

theorem canonical_reference (position : Position) : Canonical position.reference :=
  ⟨_, _, spelled_reference position, head_toDigits (Nat.succ_pos _)⟩

theorem reference_eq_iff (read : ofReference text = .ok position) :
    position.reference = text ↔ Canonical text := by
  constructor
  · rintro rfl
    exact canonical_reference position
  · rintro ⟨column, row, spelled, nonzero⟩
    exact spelled.printed nonzero read

/-- No two words of letters name one column. -/
theorem numberOfLetters_inj (upper : ∀ c ∈ column, isAsciiUpper c)
    (upper' : ∀ c ∈ letters, isAsciiUpper c)
    (same : numberOfLetters column = numberOfLetters letters) :
    column = letters := by
  rw [← letters_numberOfLetters upper, same, letters_numberOfLetters upper']

theorem Reads.same_iff (one : Reads text column digits) (two : Reads other letters figures)
    (read : Position.ofReference text = .ok position)
    (read' : Position.ofReference other = .ok place) :
    position = place ↔ column = letters ∧ valueOfDigits digits = valueOfDigits figures := by
  obtain ⟨-, row, index⟩ := one.ofReference_iff.1 read
  obtain ⟨-, row', index'⟩ := two.ofReference_iff.1 read'
  constructor
  · rintro rfl
    exact ⟨numberOfLetters_inj one.upper two.upper (index.trans index'.symm),
      row.trans row'.symm⟩
  · rintro ⟨rfl, same⟩
    have rows : position.row = place.row := by omega
    have columns : position.column = place.column := by omega
    obtain ⟨_, _⟩ := position
    cases rows
    cases columns
    rfl

end Spelling

/-- Cells and references correspond. The reference printed for a cell is read as this cell, as long
as its row is not too long to be printed. What is read at all is written as a reference, the
reference printed for its cell is read as the same cell, and it is the text itself just when this is
spelled as references are printed. Two texts are read as one cell just when they have the same
letters and their digits denote the same number. -/
theorem reference_correspondence :
    (∀ row column : Nat, (Nat.toDigits 10 (row + 1)).length ≤ maxNumeralDigits →
      ∃ text, referenceOf row column = .ok text ∧ ofReference text = .ok ⟨row, column⟩) ∧
    (∀ text position, ofReference text = .ok position →
      (∃ column digits, Reads text column digits) ∧
      ∃ printed, referenceOf position.row position.column = .ok printed ∧
        ofReference printed = .ok position ∧ (printed = text ↔ Canonical text)) ∧
    ∀ text other position place, ofReference text = .ok position → ofReference other = .ok place →
      ∀ column digits column' digits', Reads text column digits → Reads other column' digits' →
        (position = place ↔ column = column' ∧
          Nat.ofDigits 10 digits.reverse = Nat.ofDigits 10 digits'.reverse) := by
  have printed (position : Position) (readable : position.Readable) :
      referenceOf position.row position.column = .ok position.reference ∧
        ofReference position.reference = .ok position :=
    ⟨referenceOf_eq readable, ofReference?_eq_some_iff.1 (ofReference?_reference readable)⟩
  refine ⟨fun row column short => ?_, fun text position read => ?_, ?_⟩
  · exact ⟨_, printed ⟨row, column⟩ (readable_iff.2 short)⟩
  · have readable := readable_of_ofReference? (ofReference?_eq_some_iff.2 read)
    obtain ⟨written, back⟩ := printed position readable
    exact ⟨exists_reads read, _, written, back, reference_eq_iff read⟩
  · intro text other position place read read' column digits column' digits' one two
    rw [one.same_iff two read read', valueOfDigits_eq, valueOfDigits_eq]

theorem reference_correspondence_script :
    ofReference "AB٠١٢\n" = .ok ⟨11, 27⟩ ∧
      (∃ text, referenceOf 11 27 = .ok text ∧ ofReference text = .ok ⟨11, 27⟩) ∧
      (∃ printed, referenceOf 11 27 = .ok printed ∧ ofReference printed = .ok ⟨11, 27⟩ ∧
        (printed = "AB٠١٢\n" ↔ Canonical "AB٠١٢\n")) ∧
      Nat.ofDigits 10 [2, 1, 0] = Nat.ofDigits 10 [2, 1] := by
  have read : ofReference "AB٠١٢\n" = .ok ⟨11, 27⟩ := by decide
  have read' : ofReference "AB12" = .ok ⟨11, 27⟩ := by decide
  have zero : IsDigit '٠' 0 := ⟨0x660, by decide, by decide, by decide⟩
  have one : IsDigit '١' 1 := ⟨0x660, by decide, by decide, by decide⟩
  have two : IsDigit '٢' 2 := ⟨0x660, by decide, by decide, by decide⟩
  have reads : Reads "AB٠١٢\n" ['A', 'B'] [0, 1, 2] :=
    ⟨⟨['٠', '١', '٢'], ['\n'], by decide, .cons zero (.cons one (.cons two .nil)), .inr rfl⟩,
      by decide, List.all_eq_true.1 rfl, by decide⟩
  have spelled : Spelled "AB12" ['A', 'B'] ['1', '2'] :=
    ⟨by decide, by decide, List.all_eq_true.1 rfl, by decide, List.all_eq_true.1 rfl⟩
  exact ⟨read, reference_correspondence.1 11 27 (by decide),
    (reference_correspondence.2.1 _ _ read).2,
    ((reference_correspondence.2.2 _ _ _ _ read read' _ _ _ _ reads spelled.reads).1 rfl).2⟩

end FormulaGrid.Position
