import FormulaGrid.Proofs.Position.Spelling
import Mathlib.Data.List.Shortlex
import Mathlib.Tactic.Tauto

/-! The names of columns count them: every word of capital letters names one column, no two columns
have one name, and the names come in order of their length, those of one length in the order of the
alphabet. -/
namespace FormulaGrid.Position

open FormulaGrid.Text

section Words

theorem isCapitalWord_upper {cs : List Char} (lettered : cs ≠ [])
    (upper : ∀ c ∈ cs, isAsciiUpper c) : isCapitalWord cs := by
  have known : ∀ digit < 26, isLetter (letter digit) ∧ isUpperLetter (letter digit) ∧
      isLowerLetter (letter digit) = false := by decide +kernel
  have capital (c : Char) (member : c ∈ cs) :
      isLetter c ∧ isUpperLetter c ∧ isLowerLetter c = false := by
    obtain ⟨positive, most⟩ := worth_range (upper c member)
    rw [← letter_worth (upper c member)]
    exact known _ (by omega)
  obtain ⟨first, member⟩ := List.exists_mem_of_ne_nil cs lettered
  have all : cs.all isLetter := List.all_eq_true.2 fun c inside => (capital c inside).1
  have any : cs.any isUpperLetter := List.any_eq_true.2 ⟨first, member, (capital first member).2.1⟩
  have none : cs.any isLowerLetter = false :=
    List.any_eq_false.2 fun c inside => Bool.eq_false_iff.1 (capital c inside).2.2
  rw [isCapitalWord, all, any, none]
  rfl

theorem columnIndexOf_upper {name : String} (lettered : name ≠ "")
    (upper : ∀ c ∈ name.toList, isAsciiUpper c) :
    columnIndexOf name = .ok (columnIndex name.toList) := by
  rw [columnIndexOf, if_pos (isCapitalWord_upper (by simpa using lettered) upper)]

theorem columnNameOf_natCast (index : Nat) : columnNameOf index = .ok (columnName index) := by
  rw [columnNameOf, if_neg (by omega), Int.toNat_natCast]

theorem columnIndex_letters (index : Nat) : columnIndex (letters (index + 1)) = index := by
  rw [columnIndex, numberOfLetters_letters, Nat.add_sub_cancel]

theorem columnName_columnIndex {cs : List Char} (lettered : cs ≠ [])
    (upper : ∀ c ∈ cs, isAsciiUpper c) : columnName (columnIndex cs) = String.ofList cs := by
  have positive := numberOfLetters_pos lettered upper
  rw [columnName, columnIndex, Nat.sub_add_cancel positive, letters_numberOfLetters upper]

end Words

section Order

variable {cs ds : List Char} {c d : Char}

theorem lex_concat_iff (same : cs.length = ds.length) :
    List.Lex (· < ·) (cs ++ [c]) (ds ++ [d]) ↔
      List.Lex (· < ·) cs ds ∨ cs = ds ∧ c < d := by
  induction cs generalizing ds with
  | nil =>
    obtain rfl := List.length_eq_zero_iff.1 same.symm
    simp
  | cons a cs ih =>
    obtain ⟨b, ds, rfl⟩ := List.exists_cons_of_length_eq_add_one same.symm
    have tails := ih (Nat.succ.inj same)
    rw [List.cons_append, List.cons_append, List.cons_lex_cons_iff, List.cons_lex_cons_iff, tails,
      List.cons.injEq]
    tauto

theorem shortlex_concat_iff :
    List.Shortlex (· < ·) (cs ++ [c]) (ds ++ [d]) ↔
      List.Shortlex (· < ·) cs ds ∨ cs = ds ∧ c < d := by
  simp only [List.shortlex_def, List.length_append, List.length_singleton]
  by_cases same : cs.length = ds.length
  · simp [same, lex_concat_iff same]
  · have differ : cs ≠ ds := fun equal => same (congrArg List.length equal)
    simp [same, differ]

theorem worth_lt_iff (upper : isAsciiUpper c) (upper' : isAsciiUpper d) :
    worth c < worth d ↔ c < d := by
  obtain ⟨least, -⟩ := isAsciiUpper_iff.1 upper
  obtain ⟨least', -⟩ := isAsciiUpper_iff.1 upper'
  have order : c < d ↔ c.toNat < d.toNat := Iff.rfl
  rw [order]
  change c.toNat + 1 - 65 < d.toNat + 1 - 65 ↔ _
  omega

/-- A numeral is smaller if it is shorter, and one of the same length if it comes first in the order
of the alphabet. The digits are worth at least one and at most the base, so that the last of them
never outweighs a difference in front. -/
theorem numberOfLetters_lt_iff (upper : ∀ c ∈ cs, isAsciiUpper c)
    (upper' : ∀ d ∈ ds, isAsciiUpper d) :
    numberOfLetters cs < numberOfLetters ds ↔ List.Shortlex (· < ·) cs ds := by
  induction cs using List.reverseRecOn generalizing ds with
  | nil =>
    cases ds with
    | nil => simp
    | cons d ds =>
      have positive := numberOfLetters_pos (List.cons_ne_nil d ds) upper'
      exact iff_of_true positive (.of_length_lt (Nat.succ_pos _))
  | append_singleton cs c ih =>
    cases ds using List.reverseRecOn with
    | nil =>
      have least : ¬ numberOfLetters (cs ++ [c]) < numberOfLetters [] := Nat.not_lt_zero _
      exact iff_of_false least List.not_shortlex_nil_right
    | append_singleton ds d =>
      obtain ⟨before, last⟩ := List.forall_mem_append.1 upper
      obtain ⟨before', last'⟩ := List.forall_mem_append.1 upper'
      have last := List.forall_mem_singleton.1 last
      have last' := List.forall_mem_singleton.1 last'
      obtain ⟨positive, most⟩ := worth_range last
      obtain ⟨positive', most'⟩ := worth_range last'
      have equal : cs = ds ↔ numberOfLetters cs = numberOfLetters ds :=
        ⟨congrArg numberOfLetters, numberOfLetters_inj before before'⟩
      rw [shortlex_concat_iff, ← ih before before', ← worth_lt_iff last last', equal,
        numberOfLetters_append, numberOfLetters_append]
      omega

end Order

/-- Column names are numerals without a zero. A column is found again by its name, every word of
capital letters is the name of the column it leads to, and columns come in the order of the lengths
of their names, those with names of one length in alphabetical order. -/
theorem columns_numbered :
    (∀ index : Nat, ∃ name, columnNameOf index = .ok name ∧ columnIndexOf name = .ok index) ∧
    (∀ name : String, name ≠ "" → (∀ c ∈ name.toList, isAsciiUpper c) →
      ∃ index : Nat, columnIndexOf name = .ok index ∧ columnNameOf index = .ok name) ∧
    ∀ (i j : Nat) (name name' : String), columnNameOf i = .ok name → columnNameOf j = .ok name' →
      (i < j ↔ name.length < name'.length ∨ name.length = name'.length ∧ name < name') := by
  refine ⟨fun index => ?_, fun name lettered upper => ?_, fun i j name name' named named' => ?_⟩
  · have lettered : columnName index ≠ "" := by
      simpa [columnName] using letters_ne_nil (Nat.succ_pos index)
    have upper : ∀ c ∈ (columnName index).toList, isAsciiUpper c := by
      rw [columnName, String.toList_ofList]
      exact fun c => isAsciiUpper_of_mem_letters
    refine ⟨columnName index, columnNameOf_natCast index, ?_⟩
    rw [columnIndexOf_upper lettered upper, columnName, String.toList_ofList, columnIndex_letters]
  · refine ⟨_, columnIndexOf_upper lettered upper, ?_⟩
    rw [columnNameOf_natCast, columnName_columnIndex (by simpa using lettered) upper,
      String.ofList_toList]
  · rw [columnNameOf_natCast, Except.ok.injEq] at named named'
    subst named named'
    have order := numberOfLetters_lt_iff (fun c => isAsciiUpper_of_mem_letters (n := i + 1))
      (fun d => isAsciiUpper_of_mem_letters (n := j + 1))
    rw [numberOfLetters_letters, numberOfLetters_letters, List.shortlex_def,
      Nat.add_lt_add_iff_right] at order
    rw [order, columnName, columnName, String.lt_iff, String.length_ofList,
      String.length_ofList, String.toList_ofList, String.toList_ofList]
    rfl

theorem columns_numbered_longer :
    (∃ index : Nat, columnIndexOf "ZZ" = .ok index ∧ columnNameOf index = .ok "ZZ") ∧
      columnNameOf 701 = .ok "ZZ" ∧ columnNameOf 702 = .ok "AAA" ∧
      (701 < 702 ↔ "ZZ".length < "AAA".length ∨ "ZZ".length = "AAA".length ∧ "ZZ" < "AAA") := by
  have last : columnNameOf 701 = .ok "ZZ" := by decide +kernel
  have next : columnNameOf 702 = .ok "AAA" := by decide +kernel
  exact ⟨columns_numbered.2.1 "ZZ" (by decide) (List.all_eq_true.1 rfl), last, next,
    columns_numbered.2.2 701 702 "ZZ" "AAA" last next⟩

end FormulaGrid.Position
