import FormulaGrid.Position.Basic
import FormulaGrid.Proofs.Digits
import FormulaGrid.Proofs.Lexing
import Mathlib.Data.List.Basic

/-! Reading the reference of a position gives the position back, as long as its row can be read at
all, and no other reference without zeros in front of its row leads to the position. What is blank
behind a reference may be left out. -/
namespace FormulaGrid.Position

open FormulaGrid.Failure FormulaGrid.Text

section Columns

theorem toNat_letter {digit : Nat} (small : digit < 26) : (letter digit).toNat = 65 + digit := by
  have all : ∀ digit < 26, (letter digit).toNat = 65 + digit := by decide
  exact all digit small

theorem isAsciiUpper_letter {digit : Nat} (small : digit < 26) : isAsciiUpper (letter digit) := by
  rw [isAsciiUpper_iff, toNat_letter small]
  omega

theorem worth_letter {digit : Nat} (small : digit < 26) : worth (letter digit) = digit + 1 := by
  rw [worth, toNat_letter small]
  change 65 + digit + 1 - 65 = digit + 1
  omega

theorem numberOfLetters_append (cs : List Char) (c : Char) :
    numberOfLetters (cs ++ [c]) = 26 * numberOfLetters cs + worth c := by
  rw [numberOfLetters, List.foldl_append]
  rfl

theorem numberOfLetters_letters (n : Nat) : numberOfLetters (letters n) = n := by
  fun_induction letters n with
  | case1 => rfl
  | case2 n positive ih =>
    have digit := Nat.mod_lt (n - 1) (show 26 > 0 by decide)
    rw [numberOfLetters_append, ih, worth_letter digit]
    omega

theorem isAsciiUpper_of_mem_letters {n : Nat} {c : Char} (member : c ∈ letters n) :
    isAsciiUpper c := by
  fun_induction letters n with
  | case1 => cases member
  | case2 n positive ih =>
    rcases List.mem_append.1 member with earlier | last
    · exact ih earlier
    · obtain rfl := List.mem_singleton.1 last
      exact isAsciiUpper_letter (Nat.mod_lt _ (by decide))

theorem letters_ne_nil {n : Nat} (positive : 0 < n) : letters n ≠ [] := by
  rw [letters.eq_def, if_neg (by omega)]
  simp

theorem worth_range {c : Char} (upper : isAsciiUpper c) : 0 < worth c ∧ worth c ≤ 26 := by
  obtain ⟨least, most⟩ := isAsciiUpper_iff.1 upper
  change 0 < c.toNat + 1 - 65 ∧ c.toNat + 1 - 65 ≤ 26
  omega

theorem letter_worth {c : Char} (upper : isAsciiUpper c) : letter (worth c - 1) = c := by
  obtain ⟨least, most⟩ := isAsciiUpper_iff.1 upper
  have code : 'A'.toNat + (worth c - 1) = c.toNat := by
    change 65 + (c.toNat + 1 - 65 - 1) = c.toNat
    omega
  rw [letter, code, Char.ofNat_toNat]

theorem numberOfLetters_pos {cs : List Char} (lettered : cs ≠ [])
    (upper : ∀ c ∈ cs, isAsciiUpper c) : 0 < numberOfLetters cs := by
  rw [← List.dropLast_concat_getLast lettered, numberOfLetters_append]
  exact Nat.add_pos_right _ (worth_range (upper _ (List.getLast_mem lettered))).1

theorem letters_numberOfLetters {cs : List Char} (upper : ∀ c ∈ cs, isAsciiUpper c) :
    letters (numberOfLetters cs) = cs := by
  induction cs using List.reverseRecOn with
  | nil => rw [letters.eq_def]; rfl
  | append_singleton cs c ih =>
    have last := upper c (by simp)
    have earlier := ih fun d member => upper d (List.mem_append_left _ member)
    obtain ⟨positive, most⟩ := worth_range last
    have quotient : (26 * numberOfLetters cs + worth c - 1) / 26 = numberOfLetters cs := by omega
    have digit : (26 * numberOfLetters cs + worth c - 1) % 26 = worth c - 1 := by omega
    rw [numberOfLetters_append, letters.eq_def, if_neg (by omega), quotient, digit, earlier,
      letter_worth last]

end Columns

section Rows

variable {cs row ending : List Char} {digits : List Nat}

theorem digits?_eq_some_iff : digits? cs = some digits ↔ digits ≠ [] ∧ Denotes cs digits := by
  rw [denotes_iff]
  cases cs with
  | nil => simp [digits?, eq_comm]
  | cons c cs =>
    rw [digits?, if_neg (by simp), iff_and_self]
    rintro read rfl
    have length := (denotes_iff.2 read).length_eq
    simp at length

theorem dropFinalBreak_append (denotes : Denotes row digits)
    (broken : ending = [] ∨ ending = ['\n']) : dropFinalBreak (row ++ ending) = row := by
  rcases broken with rfl | rfl
  · rw [List.append_nil, dropFinalBreak, if_neg]
    intro last
    obtain ⟨digit, written⟩ := denotes.isDigit '\n' (List.mem_of_getLast? last)
    exact written.ne (d := '\n') rfl rfl
  · rw [dropFinalBreak, if_pos List.getLast?_concat, List.dropLast_concat]

theorem exists_break (cs : List Char) :
    ∃ ending, cs = dropFinalBreak cs ++ ending ∧ (ending = [] ∨ ending = ['\n']) := by
  unfold dropFinalBreak
  split
  next last =>
    obtain ⟨front, rfl⟩ := List.getLast?_eq_some_iff.1 last
    exact ⟨['\n'], by rw [List.dropLast_concat], .inr rfl⟩
  next => exact ⟨[], (List.append_nil cs).symm, .inl rfl⟩

end Rows

/-- Whether a text is written as a reference: capital letters, then digits of any script, and behind
them a line break or nothing. -/
structure Reads (text : String) (column : List Char) (digits : List Nat) : Prop where
  whole : ∃ row ending, text.toList = column ++ (row ++ ending) ∧ Denotes row digits ∧
    (ending = [] ∨ ending = ['\n'])
  lettered : column ≠ []
  upper : ∀ c ∈ column, isAsciiUpper c
  numbered : digits ≠ []

section Reading

variable {text : String} {column : List Char} {digits : List Nat} {position : Position}

theorem ofReference?_eq_some_iff :
    ofReference? text = some position ↔ ofReference text = .ok position :=
  toOption_eq_some

theorem Reads.parts (reads : Reads text column digits) :
    text.toList.takeWhile isAsciiUpper = column ∧
      ∃ row ending, text.toList.dropWhile isAsciiUpper = row ++ ending ∧ Denotes row digits ∧
        (ending = [] ∨ ending = ['\n']) := by
  obtain ⟨row, ending, split, denotes, broken⟩ := reads.whole
  have some_digits : row ≠ [] := by
    rintro rfl
    cases denotes
    exact reads.numbered rfl
  have stops (c : Char) (head : (row ++ ending).head? = some c) : isAsciiUpper c = false := by
    rw [List.head?_append_of_ne_nil _ some_digits] at head
    obtain ⟨digit, written⟩ := denotes.isDigit c (List.mem_of_head? head)
    exact written.not_upper
  rw [split]
  exact ⟨takeWhile_run reads.upper stops, row, ending, dropWhile_run reads.upper stops, denotes,
    broken⟩

theorem Reads.ofReference (reads : Reads text column digits) :
    Position.ofReference text =
      if maxNumeralDigits < digits.length then .error (.rowTooLong digits.length)
      else if valueOfDigits digits = 0 then .error (.invalidReference text)
      else .ok ⟨valueOfDigits digits - 1, columnIndex column⟩ := by
  obtain ⟨front, row, ending, back, denotes, broken⟩ := reads.parts
  have named : column.isEmpty = false := by simpa using reads.lettered
  unfold Position.ofReference
  simp only [front, back, named, dropFinalBreak_append denotes broken,
    digits?_eq_some_iff.2 ⟨reads.numbered, denotes⟩]

theorem exists_reads (read : ofReference text = .ok position) :
    ∃ column digits, Reads text column digits := by
  unfold ofReference at read
  dsimp only at read
  split at read
  next digits named found =>
    obtain ⟨numbered, denotes⟩ := digits?_eq_some_iff.1 found
    obtain ⟨ending, split, broken⟩ := exists_break (text.toList.dropWhile isAsciiUpper)
    refine ⟨text.toList.takeWhile isAsciiUpper, digits, ⟨_, ending, ?_, denotes, broken⟩,
      by simpa using named, all_takeWhile, numbered⟩
    rw [← split, List.takeWhile_append_dropWhile]
  · cases read

theorem Reads.ofReference_iff (reads : Reads text column digits) :
    Position.ofReference text = .ok position ↔
      digits.length ≤ maxNumeralDigits ∧ valueOfDigits digits = position.row + 1 ∧
        numberOfLetters column = position.column + 1 := by
  have lettered := numberOfLetters_pos reads.lettered reads.upper
  rw [reads.ofReference, columnIndex]
  obtain ⟨row, index⟩ := position
  split
  next long => simp [Nat.not_le.2 long]
  next short =>
    split
    next zero => simp [zero]
    next positive =>
      simp only [Except.ok.injEq, Position.mk.injEq, Nat.le_of_not_lt short, true_and]
      omega

end Reading

/-- Whether the number of a position's row is short enough to be read. -/
def Readable (position : Position) : Prop :=
  position.row + 1 < 10 ^ maxNumeralDigits

/-- Whether a name is spelled as formulas spell references, in capital letters with digits after
them. -/
structure Spelled (name : String) (column row : List Char) : Prop where
  whole : name = String.ofList (column ++ row)
  lettered : column ≠ []
  upper : ∀ c ∈ column, isAsciiUpper c
  numbered : row ≠ []
  digits : ∀ c ∈ row, isAsciiDigit c

/-- Whether a reference has no zeros in front of the number of its row. -/
def Unpadded (name : String) : Prop :=
  ∀ digits, name.toList.dropWhile isAsciiUpper = '0' :: digits → digits = []

section Spelling

variable {name : String} {column row : List Char} {position : Position}

theorem spelled_reference (position : Position) :
    Spelled position.reference (letters (position.column + 1))
      (Nat.toDigits 10 (position.row + 1)) where
  whole := by
    rw [reference, columnName, String.ofList_append, Nat.toString_eq_repr, Nat.repr]
  lettered := letters_ne_nil (Nat.succ_pos _)
  upper _ := isAsciiUpper_of_mem_letters
  numbered := by simp
  digits _ := isAsciiDigit_of_mem_toDigits

theorem Spelled.stops (spelled : Spelled name column row) (c : Char) (head : row.head? = some c) :
    isAsciiUpper c = false := by
  have range := isAsciiDigit_iff.1 (spelled.digits c (List.mem_of_head? head))
  exact isAsciiUpper_eq_false (by omega)

theorem Spelled.dropWhile (spelled : Spelled name column row) :
    name.toList.dropWhile isAsciiUpper = row := by
  rw [spelled.whole, String.toList_ofList, dropWhile_run spelled.upper spelled.stops]

theorem Spelled.reads (spelled : Spelled name column row) :
    Reads name column (row.map fun c => c.toNat - '0'.toNat) where
  whole := ⟨row, [], by rw [spelled.whole, String.toList_ofList, List.append_nil],
    denotes_ascii spelled.digits, .inl rfl⟩
  lettered := spelled.lettered
  upper := spelled.upper
  numbered := by simpa using spelled.numbered

theorem Spelled.ofReference (spelled : Spelled name column row) :
    Position.ofReference name =
      let number := Nat.ofDigitChars 10 row 0
      if maxNumeralDigits < row.length then .error (.rowTooLong row.length)
      else if number = 0 then .error (.invalidReference name)
      else .ok ⟨number - 1, numberOfLetters column - 1⟩ := by
  simp only [spelled.reads.ofReference, List.length_map, valueOfDigits_ascii, columnIndex]

theorem Spelled.printed (spelled : Spelled name column row) (nonzero : row.head? ≠ some '0')
    (read : Position.ofReference name = .ok position) : position.reference = name := by
  obtain ⟨-, number, index⟩ := spelled.reads.ofReference_iff.1 read
  rw [valueOfDigits_ascii] at number
  obtain ⟨same, -⟩ := toDigits_ofDigitChars spelled.numbered spelled.digits nonzero
  rw [Position.reference, columnName, ← index, ← number, letters_numberOfLetters spelled.upper,
    Nat.toString_eq_repr, Nat.repr, same, ← String.ofList_append, spelled.whole]

/-- A position has no other unpadded reference than its own. -/
theorem Spelled.reference (spelled : Spelled name column row) (unpadded : Unpadded name)
    (read : ofReference? name = some position) : position.reference = name := by
  rw [ofReference?_eq_some_iff] at read
  refine spelled.printed (fun head => ?_) read
  obtain ⟨rest, same⟩ := List.head?_eq_some_iff.1 head
  obtain rfl := unpadded rest (spelled.dropWhile.trans same)
  obtain ⟨-, number, -⟩ := spelled.reads.ofReference_iff.1 read
  rw [same] at number
  cases number

end Spelling

theorem ofReference_reference (position : Position) :
    ofReference position.reference =
      let digits := (Nat.toDigits 10 (position.row + 1)).length
      if maxNumeralDigits < digits then .error (.rowTooLong digits) else .ok position := by
  rw [(spelled_reference position).ofReference]
  simp only [Nat.ofDigitChars_ten_toDigits, Nat.succ_ne_zero, if_false, numberOfLetters_letters,
    Nat.add_sub_cancel]

theorem readable_iff {position : Position} :
    position.Readable ↔ (Nat.toDigits 10 (position.row + 1)).length ≤ maxNumeralDigits :=
  (Nat.length_toDigits_le_iff (by decide) (by decide)).symm

theorem ofReference?_reference {position : Position} (readable : position.Readable) :
    ofReference? position.reference = some position := by
  rw [ofReference?, ofReference_reference, if_neg (Nat.not_lt.2 (readable_iff.1 readable))]
  rfl

theorem eq_of_ofReference? {position other : Position}
    (read : ofReference? position.reference = some other) : other = position := by
  rw [ofReference?, ofReference_reference] at read
  dsimp only at read
  split at read
  · cases read
  · exact (Option.some.inj read).symm

theorem readable_of_ofReference? {reference : String} {position : Position}
    (read : ofReference? reference = some position) : position.Readable := by
  rw [ofReference?_eq_some_iff] at read
  obtain ⟨column, digits, reads⟩ := exists_reads read
  obtain ⟨short, number, -⟩ := reads.ofReference_iff.1 read
  obtain ⟨row, -, -, denotes, -⟩ := reads.whole
  have bounded := valueOfDigits_lt denotes.small
  have padded : 10 ^ digits.length ≤ 10 ^ maxNumeralDigits :=
    Nat.pow_le_pow_right (by decide) short
  change position.row + 1 < 10 ^ maxNumeralDigits
  omega

theorem referenceOf_ok_iff {row column : Nat} {name : String} :
    referenceOf row column = .ok name ↔
      Readable ⟨row, column⟩ ∧ reference ⟨row, column⟩ = name := by
  have above : ¬ (row : Int) < 0 := by omega
  have left : ¬ (column : Int) < 0 := by omega
  rw [referenceOf, if_neg above, columnNameOf, if_neg left]
  simp only [Int.toNat_natCast, ok_bind]
  -- For any number of digits, as powers of the greatest are too large to be computed.
  unfold Readable
  generalize maxNumeralDigits = digits
  by_cases short : row + 1 < 10 ^ digits
  · have fits : ¬ Nat.pow 10 digits ≤ row + 1 := Nat.not_le.2 short
    rw [if_neg fits]
    change Except.ok (reference ⟨row, column⟩) = .ok name ↔ _
    simp [short]
  · have great : Nat.pow 10 digits ≤ row + 1 := Nat.not_lt.1 short
    rw [if_pos great]
    simp [short, throw, throwThe, MonadExceptOf.throw]

theorem referenceOf_eq {place : Position} (readable : place.Readable) :
    referenceOf place.row place.column = .ok place.reference :=
  referenceOf_ok_iff.2 ⟨readable, rfl⟩

section Blanks

variable {letters digits blanks row : List Char} {position : Position}

theorem takeWhile_visible (visible : ∀ c ∈ row, isBlank c = false)
    (blank : ∀ c ∈ blanks, isBlank c) : (row ++ blanks).takeWhile (fun c => !isBlank c) = row := by
  refine takeWhile_run (fun c member => ?_) fun c head => ?_
  · rw [visible c member]
    rfl
  · rw [blank c (List.mem_of_head? head)]
    rfl

/-- What is blank behind a reference is no part of its name. -/
theorem ofReference?_blanks (lettered : letters ≠ []) (upper : ∀ c ∈ letters, isAsciiUpper c)
    (numbered : digits ≠ []) (all : ∀ c ∈ digits, isAsciiDigit c)
    (blank : ∀ c ∈ blanks, isBlank c)
    (read : ofReference? (String.ofList (letters ++ (digits ++ blanks))) = some position) :
    ofReference? (String.ofList (letters ++ digits)) = some position := by
  have spelled : Spelled (String.ofList (letters ++ digits)) letters digits :=
    ⟨rfl, lettered, upper, numbered, all⟩
  have stops (c : Char) (head : (digits ++ blanks).head? = some c) : isAsciiUpper c = false := by
    rw [List.head?_append_of_ne_nil _ numbered] at head
    exact spelled.stops c head
  have digit (c : Char) (member : c ∈ digits) : isBlank c = false :=
    (decimalDigit?_eq_some_iff.1 (decimalDigit_ascii (all c member))).visible
  rw [ofReference?_eq_some_iff] at read ⊢
  obtain ⟨column, numbers, reads⟩ := exists_reads read
  obtain ⟨front, row, ending, back, denotes, broken⟩ := reads.parts
  rw [String.toList_ofList, takeWhile_run upper stops] at front
  rw [String.toList_ofList, dropWhile_run upper stops] at back
  obtain rfl := front
  -- The digits end at the first blank, whichever way the rest is split.
  have same : digits = row := by
    have visible (c : Char) (member : c ∈ row) : isBlank c = false := by
      obtain ⟨digit, written⟩ := denotes.isDigit c member
      exact written.visible
    have blank' : ∀ c ∈ ending, isBlank c := by
      rcases broken with rfl | rfl
      · simp
      · exact List.forall_mem_singleton.2 rfl
    rw [← takeWhile_visible digit blank, back, takeWhile_visible visible blank']
  obtain rfl := same
  have shorter : Reads (String.ofList (letters ++ digits)) letters numbers :=
    ⟨⟨digits, [], by simp, denotes, .inl rfl⟩, lettered, upper, reads.numbered⟩
  exact shorter.ofReference_iff.2 (reads.ofReference_iff.1 read)

end Blanks

end FormulaGrid.Position
