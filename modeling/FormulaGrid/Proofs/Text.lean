import FormulaGrid.Text.Blank
import FormulaGrid.Text.Digit
import FormulaGrid.Text.Letter
import Mathlib.Algebra.Group.Nat.Defs
import Mathlib.Data.List.Induction
import Mathlib.Data.List.TakeWhile

/-! Classes of characters by their codes, runs of characters of one class, and the digits of a
number. -/
namespace FormulaGrid.Text

section Characters

variable {c : Char}

theorem isAsciiDigit_iff : isAsciiDigit c ↔ 48 ≤ c.toNat ∧ c.toNat ≤ 57 := by
  simp only [isAsciiDigit, Bool.and_eq_true, decide_eq_true_eq, Char.le_def, UInt32.le_iff_toNat_le]
  rfl

theorem isAsciiUpper_iff : isAsciiUpper c ↔ 65 ≤ c.toNat ∧ c.toNat ≤ 90 := by
  simp only [isAsciiUpper, Bool.and_eq_true, decide_eq_true_eq, Char.le_def, UInt32.le_iff_toNat_le]
  rfl

theorem isAsciiLower_iff : isAsciiLower c ↔ 97 ≤ c.toNat ∧ c.toNat ≤ 122 := by
  simp only [isAsciiLower, Bool.and_eq_true, decide_eq_true_eq, Char.le_def, UInt32.le_iff_toNat_le]
  rfl

theorem isBlank_eq_false (least : 33 ≤ c.toNat) (greatest : c.toNat ≤ 126) : isBlank c = false := by
  rw [Bool.eq_false_iff]
  simp only [isBlank, ne_eq, Bool.or_eq_true, Bool.and_eq_true, decide_eq_true_eq, beq_iff_eq]
  omega

theorem isBlank_of_upper (upper : isAsciiUpper c) : isBlank c = false := by
  have range := isAsciiUpper_iff.1 upper
  exact isBlank_eq_false (by omega) (by omega)

theorem isAsciiDigit_eq_false (outside : c.toNat < 48 ∨ 57 < c.toNat) : isAsciiDigit c = false := by
  rw [Bool.eq_false_iff, Ne, isAsciiDigit_iff]
  omega

theorem isAsciiUpper_eq_false (outside : c.toNat < 65 ∨ 90 < c.toNat) : isAsciiUpper c = false := by
  rw [Bool.eq_false_iff, Ne, isAsciiUpper_iff]
  omega

theorem isAsciiLower_eq_false (outside : c.toNat < 97 ∨ 122 < c.toNat) :
    isAsciiLower c = false := by
  rw [Bool.eq_false_iff, Ne, isAsciiLower_iff]
  omega

end Characters

section Runs

variable {p : Char → Bool} {run rest cs : List Char}

theorem takeWhile_run (all : ∀ c ∈ run, p c) (ends : ∀ c, rest.head? = some c → p c = false) :
    (run ++ rest).takeWhile p = run := by
  rw [List.takeWhile_append_of_pos all]
  cases rest with
  | nil => simp
  | cons c rest => simp [ends c rfl]

theorem dropWhile_run (all : ∀ c ∈ run, p c) (ends : ∀ c, rest.head? = some c → p c = false) :
    (run ++ rest).dropWhile p = rest := by
  rw [List.dropWhile_append_of_pos all]
  cases rest with
  | nil => simp
  | cons c rest => simp [ends c rfl]

theorem head_dropWhile (c : Char) (head : (cs.dropWhile p).head? = some c) : p c = false := by
  have stopped := List.head?_dropWhile_not p cs
  rw [head] at stopped
  exact stopped

theorem all_takeWhile (c : Char) (member : c ∈ cs.takeWhile p) : p c :=
  List.mem_takeWhile_imp member

theorem all_run {c : Char} (first : p c) : ∀ d ∈ c :: cs.takeWhile p, p d :=
  List.forall_mem_cons.2 ⟨first, all_takeWhile⟩

theorem run_append (p : Char → Bool) (c : Char) (cs : List Char) :
    (c :: cs.takeWhile p) ++ cs.dropWhile p = c :: cs := by
  rw [List.cons_append, List.takeWhile_append_dropWhile]

theorem head_of_takeWhile_nil (none : cs.takeWhile p = []) (c : Char) (head : cs.head? = some c) :
    p c = false := by
  cases cs with
  | nil => cases head
  | cons d cs =>
    cases head
    simpa [List.takeWhile_cons] using none

end Runs

section Digits

theorem decimalDigit_ascii {c : Char} (digit : isAsciiDigit c) :
    decimalDigit? c = some (c.toNat - '0'.toNat) := by
  obtain ⟨least, most⟩ := isAsciiDigit_iff.1 digit
  unfold decimalDigit? digitZeros
  rw [List.findSome?_cons, if_pos ⟨least, by omega⟩]
  rfl

theorem decimalDigit_blank {c : Char} (blank : isBlank c) : decimalDigit? c = none := by
  -- The digits of every script lie between two blanks.
  have between : ∀ first ∈ digitZeros, (0x20 < first ∧ first + 10 ≤ 0x85) ∨
      (0xA0 < first ∧ first + 10 ≤ 0x1680) ∨ (0x1680 < first ∧ first + 10 ≤ 0x2000) ∨
      0x3000 < first := by decide
  simp only [isBlank, Bool.or_eq_true, Bool.and_eq_true, decide_eq_true_eq, beq_iff_eq] at blank
  rw [decimalDigit?, List.findSome?_eq_none_iff]
  intro first member
  have outside := between first member
  rw [if_neg (by omega)]

theorem valueOfDigits_append (digits : List Nat) (digit : Nat) :
    valueOfDigits (digits ++ [digit]) = 10 * valueOfDigits digits + digit := by
  rw [valueOfDigits, List.foldl_append]
  rfl

theorem valueOfDigits_lt {digits : List Nat} (small : ∀ digit ∈ digits, digit < 10) :
    valueOfDigits digits < 10 ^ digits.length := by
  induction digits using List.reverseRecOn with
  | nil => decide
  | append_singleton digits digit ih =>
    have earlier := ih fun other member => small other (List.mem_append_left _ member)
    have last := small digit (by simp)
    rw [valueOfDigits_append, List.length_append, List.length_singleton, Nat.pow_succ]
    omega

theorem valueOfDigits_ascii (cs : List Char) :
    valueOfDigits (cs.map fun c => c.toNat - '0'.toNat) = Nat.ofDigitChars 10 cs 0 := by
  rw [valueOfDigits, List.foldl_map]
  rfl

theorem isAsciiDigit_of_mem_toDigits {n : Nat} {c : Char} (member : c ∈ Nat.toDigits 10 n) :
    isAsciiDigit c := by
  have digit := Nat.isDigit_of_mem_toDigits (by decide) (by decide) member
  rw [isAsciiDigit_iff]
  simpa [Char.isDigit, UInt32.le_iff_toNat_le] using digit

theorem digitChar_ascii {c : Char} (digit : isAsciiDigit c) :
    (c.toNat - '0'.toNat).digitChar = c := by
  obtain ⟨least, most⟩ := isAsciiDigit_iff.1 digit
  have all : ∀ n < 10, n.digitChar = Char.ofNat (48 + n) := by decide
  have small : c.toNat - 48 < 10 := by omega
  change (c.toNat - 48).digitChar = c
  rw [all _ small, Nat.add_sub_cancel' least, Char.ofNat_toNat]

theorem toDigits_ofDigitChars {cs : List Char} (numbered : cs ≠ [])
    (digits : ∀ c ∈ cs, isAsciiDigit c) (unpadded : cs.head? ≠ some '0') :
    Nat.toDigits 10 (Nat.ofDigitChars 10 cs 0) = cs ∧ 0 < Nat.ofDigitChars 10 cs 0 := by
  induction cs using List.reverseRecOn with
  | nil => exact absurd rfl numbered
  | append_singleton cs c ih =>
    have last := digits c (by simp)
    have range := isAsciiDigit_iff.1 last
    have small : c.toNat - '0'.toNat < 10 := by change c.toNat - 48 < 10; omega
    have value : Nat.ofDigitChars 10 (cs ++ [c]) 0 =
        10 * Nat.ofDigitChars 10 cs 0 + (c.toNat - '0'.toNat) := by
      rw [Nat.ofDigitChars_append]
      rfl
    have single : Nat.toDigits 10 (c.toNat - '0'.toNat) = [c] := by
      rw [Nat.toDigits_of_lt_base small, digitChar_ascii last]
    cases cs with
    | nil =>
      have nonzero : c ≠ '0' := fun same => unpadded (congrArg some same)
      have apart : c.toNat ≠ 48 := fun same => nonzero (Char.toNat_inj.1 same)
      refine ⟨?_, ?_⟩
      · rw [value]
        simpa using single
      · rw [value]
        change 0 < 0 + (c.toNat - 48)
        omega
    | cons first cs =>
      obtain ⟨earlier, positive⟩ := ih (by simp)
        (fun d member => digits d (List.mem_append_left _ member)) unpadded
      refine ⟨?_, ?_⟩
      · rw [value, ← Nat.toDigits_append_toDigits (by decide) positive small, earlier, single]
      · rw [value]
        exact Nat.add_pos_left (Nat.mul_pos (by decide) positive) _

end Digits

end FormulaGrid.Text
