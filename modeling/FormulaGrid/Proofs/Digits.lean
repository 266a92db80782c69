import FormulaGrid.Proofs.Text
import Mathlib.Data.List.Forall2
import Mathlib.Data.Nat.Digits.Defs

/-! Numbers in the digits of any script. Every script has its ten digits in a row and no two scripts
share one, so a digit has one value and a run of digits denotes one number. -/
namespace FormulaGrid.Text

/-- Whether a character is the digit of a value in one of the scripts. -/
def IsDigit (c : Char) (digit : Nat) : Prop :=
  ∃ first ∈ digitZeros, digit < 10 ∧ c.toNat = first + digit

/-- Whether characters are digits with the given values, each of them in any script. -/
def Denotes (cs : List Char) (digits : List Nat) : Prop :=
  List.Forall₂ IsDigit cs digits

section Digits

variable {c : Char} {digit other : Nat}

theorem digitZeros_apart : ∀ first ∈ digitZeros, ∀ second ∈ digitZeros,
    first = second ∨ first + 10 ≤ second ∨ second + 10 ≤ first := by
  decide +kernel

theorem IsDigit.unique (one : IsDigit c digit) (two : IsDigit c other) : digit = other := by
  obtain ⟨first, member, small, code⟩ := one
  obtain ⟨second, member', small', code'⟩ := two
  have apart := digitZeros_apart first member second member'
  omega

theorem isDigit_of_decimalDigit? (read : decimalDigit? c = some digit) : IsDigit c digit := by
  obtain ⟨first, member, found⟩ := List.exists_of_findSome?_eq_some read
  split at found
  next inside =>
    cases found
    exact ⟨first, member, by omega, by omega⟩
  · cases found

theorem decimalDigit?_eq_some_iff : decimalDigit? c = some digit ↔ IsDigit c digit := by
  refine ⟨isDigit_of_decimalDigit?, fun written => ?_⟩
  obtain ⟨first, member, small, code⟩ := written
  have found : (decimalDigit? c).isSome := by
    rw [decimalDigit?, List.findSome?_isSome_iff]
    refine ⟨first, member, ?_⟩
    rw [if_pos (by omega)]
    rfl
  obtain ⟨other, read⟩ := Option.isSome_iff_exists.1 found
  rw [read, (isDigit_of_decimalDigit? read).unique ⟨first, member, small, code⟩]

theorem IsDigit.ne {d : Char} (written : IsDigit c digit) (unread : decimalDigit? d = none) :
    c ≠ d := by
  rintro rfl
  rw [decimalDigit?_eq_some_iff.2 written] at unread
  cases unread

theorem IsDigit.not_upper (written : IsDigit c digit) : isAsciiUpper c = false := by
  have scripts : ∀ first ∈ digitZeros, first = 0x30 ∨ 0x660 ≤ first := by decide
  obtain ⟨first, member, small, code⟩ := written
  have script := scripts first member
  exact isAsciiUpper_eq_false (by omega)

theorem IsDigit.visible (written : IsDigit c digit) : isBlank c = false :=
  Bool.eq_false_iff.2 fun blank => written.ne (decimalDigit_blank blank) rfl

end Digits

section Runs

variable {cs : List Char} {digits : List Nat}

theorem denotes_ascii (all : ∀ c ∈ cs, isAsciiDigit c) :
    Denotes cs (cs.map fun c => c.toNat - '0'.toNat) := by
  rw [Denotes, List.forall₂_map_right_iff, List.forall₂_same]
  exact fun c member => decimalDigit?_eq_some_iff.1 (decimalDigit_ascii (all c member))

theorem Denotes.isDigit (denotes : Denotes cs digits) : ∀ c ∈ cs, ∃ digit, IsDigit c digit := by
  induction denotes with
  | nil => simp
  | cons digit _ ih => exact List.forall_mem_cons.2 ⟨⟨_, digit⟩, ih⟩

theorem Denotes.small (denotes : Denotes cs digits) : ∀ digit ∈ digits, digit < 10 := by
  induction denotes with
  | nil => simp
  | cons digit _ ih =>
    obtain ⟨_, _, small, _⟩ := digit
    exact List.forall_mem_cons.2 ⟨small, ih⟩

theorem denotes_iff : Denotes cs digits ↔ cs.mapM decimalDigit? = some digits := by
  induction cs generalizing digits with
  | nil => simp [Denotes, eq_comm]
  | cons c cs ih =>
    rw [Denotes, List.forall₂_cons_left_iff, List.mapM_cons]
    constructor
    · rintro ⟨digit, others, written, denotes, rfl⟩
      rw [decimalDigit?_eq_some_iff.2 written, ih.1 denotes]
      rfl
    · intro read
      obtain ⟨digit, single, read⟩ := Option.bind_eq_some_iff.1 read
      obtain ⟨others, more, same⟩ := Option.bind_eq_some_iff.1 read
      cases same
      exact ⟨digit, others, decimalDigit?_eq_some_iff.1 single, ih.2 more, rfl⟩

theorem valueOfDigits_eq (digits : List Nat) :
    valueOfDigits digits = Nat.ofDigits 10 digits.reverse := by
  induction digits using List.reverseRecOn with
  | nil => rfl
  | append_singleton digits digit ih =>
    rw [valueOfDigits_append, ih, List.reverse_append, List.reverse_singleton,
      List.singleton_append, Nat.ofDigits_cons, Nat.add_comm]

theorem ofDigitChars_lt {cs : List Char} (all : ∀ c ∈ cs, isAsciiDigit c) :
    Nat.ofDigitChars 10 cs 0 < 10 ^ cs.length := by
  rw [← valueOfDigits_ascii, ← List.length_map (f := fun c : Char => c.toNat - '0'.toNat)]
  refine valueOfDigits_lt fun digit member => ?_
  obtain ⟨c, inside, rfl⟩ := List.mem_map.1 member
  have range := isAsciiDigit_iff.1 (all c inside)
  change c.toNat - 48 < 10
  omega

theorem head_toDigits {n : Nat} (positive : 0 < n) : (Nat.toDigits 10 n).head? ≠ some '0' := by
  intro padded
  obtain ⟨rest, split⟩ := List.head?_eq_some_iff.1 padded
  have value : Nat.ofDigitChars 10 (Nat.toDigits 10 n) 0 = n := Nat.ofDigitChars_ten_toDigits
  have all (c : Char) (member : c ∈ rest) : isAsciiDigit c :=
    isAsciiDigit_of_mem_toDigits (by rw [split]; exact List.mem_cons_of_mem _ member)
  have short := ofDigitChars_lt all
  rw [split, Nat.ofDigitChars_cons] at value
  have value : Nat.ofDigitChars 10 rest 0 = n := value
  rw [value] at short
  rcases Nat.eq_zero_or_pos rest.length with none | some
  · rw [none] at short
    omega
  · have fewer := (Nat.length_toDigits_le_iff (by decide) some).2 short
    rw [split] at fewer
    exact absurd fewer (by simp)

end Runs

end FormulaGrid.Text
