import FormulaGrid.Proofs.Json.Document

/-! JSON text holds printable ASCII characters only, and so no end of a line. -/
namespace FormulaGrid.Json

open FormulaGrid.Text FormulaGrid.Decimal

def isPlain (c : Char) : Bool :=
  0x20 ≤ c.toNat && c.toNat ≤ 0x7E

theorem isPlain_iff {c : Char} : isPlain c ↔ 0x20 ≤ c.toNat ∧ c.toNat ≤ 0x7E := by
  simp [isPlain]

theorem isPlain_digit {c : Char} (digit : isAsciiDigit c) : isPlain c := by
  have := isAsciiDigit_iff.1 digit
  rw [isPlain_iff]
  omega

section Strings

theorem isPlain_hexDigit : ∀ digit < 16, isPlain (hexDigit digit) := by decide

theorem plain_unitEscape (unit : Nat) : (unitEscape unit).all isPlain := by
  have digit (n : Nat) : isPlain (hexDigit (n % 16)) :=
    isPlain_hexDigit _ (Nat.mod_lt n (by decide))
  have marks : isPlain '\\' ∧ isPlain 'u' := by decide
  simp [unitEscape, hex, digit, marks]

theorem isPlain_escaped {letter c : Char} (known : escaped? letter = some c) : isPlain letter := by
  unfold escaped? at known
  split at known
  all_goals first | rfl | cases known

theorem plain_stringChar (c : Char) : (stringChar c).all isPlain := by
  rcases stringChar_cases c with ⟨letter, written, known⟩ | ⟨written, least, most, _⟩ |
    ⟨written, _⟩ | ⟨_, written⟩
  · have backslash : isPlain '\\' := by decide
    simp [written, backslash, isPlain_escaped known]
  · have plain : isPlain c := isPlain_iff.2 ⟨least, most⟩
    simp [written, plain]
  · rw [written]
    exact plain_unitEscape _
  · rw [written, List.all_append, plain_unitEscape, plain_unitEscape]
    rfl

theorem plain_stringChars (s : String) : (stringChars s).all isPlain := by
  have quote : isPlain '"' := by decide
  rw [stringChars, List.all_append, List.all_cons, List.all_flatMap]
  simp [quote, plain_stringChar]

end Strings

section Numbers

theorem plain_digits {cs : List Char} (all : ∀ c ∈ cs, isAsciiDigit c) : cs.all isPlain :=
  List.all_eq_true.2 fun c member => isPlain_digit (all c member)

theorem plain_sign (negative : Bool) : (if negative then ['-'] else []).all isPlain := by
  cases negative <;> rfl

theorem plain_layout (layout : Layout) : layout.chars.all isPlain := by
  obtain ⟨whole, fraction⟩ := List.forall_mem_append.1 layout.digits
  have point : isPlain '.' := by decide
  have marks : isPlain 'e' ∧ isPlain '+' ∧ isPlain '-' := by decide
  have fractionChars : layout.fractionChars.all isPlain := by
    unfold Layout.fractionChars
    split
    · rfl
    · simpa [point] using plain_digits fraction
  have scaleChars : layout.scaleChars.all isPlain := by
    unfold Layout.scaleChars
    split
    · rfl
    next negative exponent scale =>
      have digits := plain_digits (layout.scaled negative exponent scale).2
      cases negative <;> simp [marks, digits]
  simp [Layout.chars, plain_digits whole, fractionChars, scaleChars]

theorem plain_integer (value : Int) : (toString value).toList.all isPlain := by
  rw [toList_integer, List.all_append, plain_sign, plain_digits (toDigits_all _)]
  rfl

theorem IsNumeral.plain {numeral : String} (finite : IsNumeral numeral) :
    numeral.toList.all isPlain := by
  obtain ⟨negative, layout, written, _⟩ := finite.layout
  rw [written, String.toList_ofList, List.all_append, plain_sign, plain_layout]
  rfl

end Numbers

section Documents

variable {data : Data}

theorem plain_itemChars {items : List Data} (all : ∀ item ∈ items, (chars item).all isPlain) :
    (itemChars items).all isPlain := by
  have separators : isPlain ',' ∧ isPlain ' ' := by decide
  induction items with
  | nil => rfl
  | cons item items ih =>
    obtain ⟨first, others⟩ := List.forall_mem_cons.1 all
    cases items with
    | nil => exact first
    | cons next items =>
      have rest := ih others
      rw [itemChars_cons]
      simp only [List.all_append, List.all_cons, first, separators, rest, Bool.and_true]

theorem plain_entryChars {entries : Data.Entries}
    (all : ∀ entry ∈ entries, (chars entry.2).all isPlain) : (entryChars entries).all isPlain := by
  have separators : isPlain ':' ∧ isPlain ',' ∧ isPlain ' ' := by decide
  induction entries with
  | nil => rfl
  | cons entry entries ih =>
    obtain ⟨key, value⟩ := entry
    obtain ⟨first, others⟩ := List.forall_mem_cons.1 all
    have quoted := plain_stringChars key
    have first : (chars value).all isPlain := first
    cases entries with
    | nil =>
      simp only [entryChars, List.all_append, List.all_cons, quoted, first, separators,
        Bool.and_true]
    | cons next entries =>
      have rest := ih others
      rw [entryChars_cons]
      simp only [List.all_append, List.all_cons, quoted, first, separators, rest, Bool.and_true]

theorem plain_chars (json : IsWritten data) : (chars data).all isPlain := by
  induction json with
  | null => rfl
  | boolean value => cases value <;> rfl
  | integer _ => exact plain_integer _
  | float known =>
    rcases known with finite | rfl | rfl | rfl
    · change (numeralChars _).all isPlain
      rw [finite.numeralChars]
      exact finite.plain
    all_goals rfl
  | text value => exact plain_stringChars value
  | list _ ih =>
    rw [chars, List.all_append, List.all_cons, plain_itemChars ih]
    rfl
  | mapping _ _ ih =>
    rw [chars, List.all_append, List.all_cons, plain_entryChars ih]
    rfl

end Documents

end FormulaGrid.Json
