import FormulaGrid.Json.Read
import FormulaGrid.Json.Write
import FormulaGrid.Proofs.Decimal.Numeral

/-! JSON strings and numbers, written and read. A string comes back from its escapes whatever its
characters are; a number comes back wherever no digit, point or exponent follows it. -/
namespace FormulaGrid.Json

open FormulaGrid.Text FormulaGrid.Decimal

section Outcomes

variable {α β : Type} {m n : Nat} {outcome : Except ReadError (Reading α Char m)} {value : α}
  {rest : List Char}

def Yields (outcome : Except ReadError (Reading α Char m)) (value : α) (rest : List Char) : Prop :=
  ∃ shorter, outcome = .ok ⟨value, rest, shorter⟩

theorem Yields.within (inside : m ≤ n) (yields : Yields outcome value rest) :
    Yields (outcome.map fun read => read.within inside) value rest := by
  obtain ⟨_, rfl⟩ := yields
  exact ⟨_, rfl⟩

theorem Yields.map (f : α → β) (inside : m ≤ n) (yields : Yields outcome value rest) :
    Yields (outcome.map fun read => (read.map f).within inside) (f value) rest := by
  obtain ⟨_, rfl⟩ := yields
  exact ⟨_, rfl⟩

theorem not_yields_error {error : ReadError} :
    ¬Yields (.error error : Except ReadError (Reading α Char m)) value rest :=
  nofun

end Outcomes

section Strings

variable {a b c d e f g h : Char} {chars rest later : List Char}

theorem hexValue?_hexDigit : ∀ digit < 16, hexValue? (hexDigit digit) = some digit := by decide

theorem unit?_hex {unit : Nat} (short : unit < 0x10000) :
    ∃ a b c d, hex 4 unit = [a, b, c, d] ∧ unit? a b c d = some unit := by
  refine ⟨_, _, _, _, rfl, ?_⟩
  have digit (n : Nat) : hexValue? (hexDigit (n % 16)) = some (n % 16) :=
    hexValue?_hexDigit _ (Nat.mod_lt n (by decide))
  simp only [unit?, digit, Option.bind_eq_bind, Option.bind_some, Option.pure_def]
  congr 1
  omega

theorem Yields.plain (least : 0x20 ≤ c.toNat) (unquoted : c ≠ '"') (unescaped : c ≠ '\\')
    (yields : Yields (readString rest) chars later) :
    Yields (readString (c :: rest)) (c :: chars) later := by
  rw [readString]
  · rw [if_neg (by omega)]
    exact yields.map _ _
  · exact unquoted
  · rintro _ _ _ _ _ rfl
    exact absurd rfl unescaped
  · rintro _ _ rfl
    exact absurd rfl unescaped

theorem Yields.escaped (known : escaped? c = some d) (yields : Yields (readString rest) chars later) :
    Yields (readString ('\\' :: c :: rest)) (d :: chars) later := by
  rw [readString]
  · rw [known]
    exact yields.map _ _
  · rintro _ _ _ _ _ rfl
    cases known

/-- A unit that does not begin a pair is read on its own, whatever follows it. -/
theorem Yields.unit {unit : Nat} (known : unit? a b c d = some unit)
    (alone : ¬(0xD800 ≤ unit ∧ unit ≤ 0xDFFF)) (yields : Yields (readString rest) chars later) :
    Yields (readString ('\\' :: 'u' :: a :: b :: c :: d :: rest)) (Char.ofNat unit :: chars) later := by
  have char : unitChar unit = Char.ofNat unit := if_neg alone
  have single (low : Nat) : pairChar? unit low = none := if_neg (by omega)
  rw [← char]
  unfold readString
  simp only [known]
  split
  next e f g h _ =>
    cases second : unit? e f g h with
    | none =>
      rw [readString] at yields
      simp only [second] at yields
      exact absurd yields not_yields_error
    | some low =>
      simp only [single low]
      exact yields.map _ _
  next => exact yields.map _ _

theorem Yields.pair {high low : Nat} (first : unit? a b c d = some high)
    (second : unit? e f g h = some low) {char : Char} (paired : pairChar? high low = some char)
    (yields : Yields (readString rest) chars later) :
    Yields (readString ('\\' :: 'u' :: a :: b :: c :: d :: '\\' :: 'u' :: e :: f :: g :: h :: rest))
      (char :: chars) later := by
  rw [readString]
  simp only [first, second, paired]
  exact yields.map _ _

theorem stringChar_cases (c : Char) :
    (∃ letter, stringChar c = ['\\', letter] ∧ escaped? letter = some c) ∨
    (stringChar c = [c] ∧ 0x20 ≤ c.toNat ∧ c.toNat ≤ 0x7E ∧ c ≠ '"' ∧ c ≠ '\\') ∨
    (stringChar c = unitEscape c.toNat ∧ c.toNat < 0x10000) ∨
    (0x10000 ≤ c.toNat ∧ stringChar c = unitEscape (0xD800 + (c.toNat - 0x10000) / 0x400) ++
      unitEscape (0xDC00 + (c.toNat - 0x10000) % 0x400)) := by
  unfold stringChar
  split
  next quoted =>
    rcases Bool.or_eq_true_iff.1 quoted with same | same <;> rw [eq_of_beq same] <;>
      exact .inl ⟨_, rfl, rfl⟩
  next unquoted =>
  have apart : c ≠ '"' ∧ c ≠ '\\' := by simpa using unquoted
  split
  next same => exact .inl ⟨_, rfl, eq_of_beq same ▸ rfl⟩
  split
  next same => exact .inl ⟨_, rfl, eq_of_beq same ▸ rfl⟩
  split
  next same => exact .inl ⟨_, rfl, eq_of_beq same ▸ rfl⟩
  split
  next same => exact .inl ⟨_, rfl, eq_of_beq same ▸ rfl⟩
  split
  next same => exact .inl ⟨_, rfl, eq_of_beq same ▸ rfl⟩
  split
  next printable => exact .inr (.inl ⟨rfl, printable.1, printable.2, apart⟩)
  split
  next short => exact .inr (.inr (.inl ⟨rfl, short⟩))
  next long => exact .inr (.inr (.inr ⟨Nat.le_of_not_lt long, rfl⟩))

theorem Yields.stringChar (c : Char) (yields : Yields (readString rest) chars later) :
    Yields (readString (stringChar c ++ rest)) (c :: chars) later := by
  have valid : c.toNat < 0xD800 ∨ 0xDFFF < c.toNat ∧ c.toNat < 0x110000 := c.valid
  rcases stringChar_cases c with ⟨letter, written, known⟩ | ⟨written, least, _, unquoted, unescaped⟩ |
    ⟨written, short⟩ | ⟨long, written⟩
  · rw [written]
    exact yields.escaped known
  · rw [written]
    exact yields.plain least unquoted unescaped
  · obtain ⟨_, _, _, _, digits, known⟩ := unit?_hex short
    have yielded := yields.unit known (by omega)
    rw [Char.ofNat_toNat] at yielded
    rw [written, unitEscape, digits]
    exact yielded
  · obtain ⟨_, _, _, _, high, first⟩ :=
      unit?_hex (show 0xD800 + (c.toNat - 0x10000) / 0x400 < 0x10000 by omega)
    obtain ⟨_, _, _, _, low, second⟩ :=
      unit?_hex (show 0xDC00 + (c.toNat - 0x10000) % 0x400 < 0x10000 by omega)
    have whole : 0x10000 + (0xD800 + (c.toNat - 0x10000) / 0x400 - 0xD800) * 0x400 +
        (0xDC00 + (c.toNat - 0x10000) % 0x400 - 0xDC00) = c.toNat := by omega
    have paired : pairChar? (0xD800 + (c.toNat - 0x10000) / 0x400)
        (0xDC00 + (c.toNat - 0x10000) % 0x400) = some c := by
      rw [pairChar?, if_pos (by omega), whole, Char.ofNat_toNat]
    rw [written, unitEscape, unitEscape, high, low]
    exact yields.pair first second paired

theorem readString_stringChars (cs rest : List Char) :
    Yields (readString (cs.flatMap stringChar ++ '"' :: rest)) cs rest := by
  induction cs with
  | nil =>
    rw [List.flatMap_nil, List.nil_append, readString]
    exact ⟨_, rfl⟩
  | cons c cs ih =>
    rw [List.flatMap_cons, List.append_assoc]
    exact ih.stringChar c

end Strings

section Numbers

variable {negative : Bool} {whole fraction rest : List Char} {layout : Layout} {data : Data}

def Ends (rest : List Char) : Prop :=
  ∀ c, rest.head? = some c → isAsciiDigit c = false ∧ c ≠ '.' ∧ c ≠ 'e' ∧ c ≠ 'E'

theorem ends_nil : Ends [] := nofun

theorem ends_cons {c : Char} (rest : List Char) (known : c = ',' ∨ c = ']' ∨ c = '\x7d') :
    Ends (c :: rest) := by
  rintro _ ⟨⟩
  rcases known with rfl | rfl | rfl <;> decide

theorem digitRun_run (all : ∀ c ∈ whole, isAsciiDigit c)
    (ends : ∀ c, rest.head? = some c → isAsciiDigit c = false) : digitRun (whole ++ rest) = whole :=
  takeWhile_run all ends

theorem wholeLength_run (nonempty : whole ≠ []) (all : ∀ c ∈ whole, isAsciiDigit c)
    (unpadded : whole.head? = some '0' → whole = ['0'])
    (ends : ∀ c, rest.head? = some c → isAsciiDigit c = false) :
    wholeLength (whole ++ rest) = whole.length := by
  unfold wholeLength
  split
  next zero =>
    obtain ⟨c, cs, rfl⟩ := List.exists_cons_of_ne_nil nonempty
    obtain ⟨rfl, _⟩ := List.cons.inj zero
    rw [unpadded rfl]
    rfl
  next => rw [digitRun_run all ends]

theorem fractionLength_of_ends (ends : ∀ c, rest.head? = some c → c ≠ '.') :
    fractionLength rest = 0 := by
  unfold fractionLength
  split
  · exact absurd rfl (ends _ rfl)
  · rfl

theorem exponentLength_of_ends (ends : ∀ c, rest.head? = some c → c ≠ 'e' ∧ c ≠ 'E') :
    exponentLength rest = 0 := by
  cases rest with
  | nil => rfl
  | cons c rest => simp [exponentLength, ends c rfl]

theorem head_scaled (layout : Layout) (ends : Ends rest) (c : Char)
    (head : (layout.scaleChars ++ rest).head? = some c) : isAsciiDigit c = false ∧ c ≠ '.' := by
  rw [List.head?_append] at head
  cases scale : layout.scaleChars.head? with
  | none =>
    rw [scale] at head
    exact ⟨(ends c head).1, (ends c head).2.1⟩
  | some e =>
    rw [scale] at head
    cases head
    rw [Layout.head_scaleChars scale]
    decide

theorem fractionLength_layout (ends : Ends rest) :
    fractionLength (layout.fractionChars ++ (layout.scaleChars ++ rest)) =
      layout.fractionChars.length := by
  unfold Layout.fractionChars
  split
  next none => exact fractionLength_of_ends fun c head => (head_scaled layout ends c head).2
  next some =>
    have run := digitRun_run (List.forall_mem_append.1 layout.digits).2
      fun c head => (head_scaled layout ends c head).1
    rw [List.cons_append, fractionLength, run, if_neg (by simpa using some)]
    rfl

theorem exponentLength_layout (ends : Ends rest) :
    exponentLength (layout.scaleChars ++ rest) = layout.scaleChars.length := by
  unfold Layout.scaleChars
  split
  next => exact exponentLength_of_ends fun c head => (ends c head).2.2
  next negative exponent scale =>
    obtain ⟨nonempty, all⟩ := layout.scaled negative exponent scale
    have run := digitRun_run all fun c head => (ends c head).1
    rw [List.cons_append, List.cons_append, exponentLength, if_pos (by decide),
      if_pos (by simp), run, if_neg (by simp [nonempty])]
    rfl

theorem readNumber_whole (nonempty : whole ≠ []) (all : ∀ c ∈ whole, isAsciiDigit c)
    (unpadded : whole.head? = some '0' → whole = ['0']) (short : whole.length ≤ maxNumeralDigits)
    (ends : Ends rest) :
    Yields (readNumber negative (whole ++ rest))
      (.integer (signed negative (Nat.ofDigitChars 10 whole 0))) rest := by
  have length : wholeLength (whole ++ rest) = whole.length :=
    wholeLength_run nonempty all unpadded fun c head => (ends c head).1
  have value : valueOfDigits (digitValues whole) = Nat.ofDigitChars 10 whole 0 :=
    valueOfDigits_ascii whole
  unfold readNumber
  simp only [length, List.drop_left, List.take_left, Nat.add_zero,
    fractionLength_of_ends fun c head => (ends c head).2.1,
    exponentLength_of_ends fun c head => (ends c head).2.2, value]
  rw [dif_pos (List.length_pos_of_ne_nil nonempty), if_pos trivial, if_neg (Nat.not_lt.2 short)]
  exact ⟨_, rfl⟩

theorem wholeLength_layout (ends : Ends rest) :
    wholeLength (layout.whole ++ (layout.fractionChars ++ (layout.scaleChars ++ rest))) =
      layout.whole.length := by
  refine wholeLength_run layout.nonempty (List.forall_mem_append.1 layout.digits).1
    layout.unpadded fun c head => ?_
  unfold Layout.fractionChars at head
  split at head
  · exact (head_scaled layout ends c head).1
  · cases head
    rfl

theorem readNumber_layout (ends : Ends rest) :
    Yields (readNumber negative (layout.chars ++ rest))
      (.float (floatNumeral negative layout.chars)) rest := by
  have parts : layout.chars ++ rest =
      layout.whole ++ (layout.fractionChars ++ (layout.scaleChars ++ rest)) := by
    simp only [Layout.chars, List.append_assoc]
  have counted : layout.whole.length + layout.fractionChars.length + layout.scaleChars.length =
      layout.chars.length := by
    simp only [Layout.chars, List.length_append]
  have shown : layout.fractionChars.length + layout.scaleChars.length ≠ 0 := by
    rcases layout.fractional with fraction | scale
    · simp [Layout.fractionChars, fraction]
    · obtain ⟨_, scale⟩ := Option.ne_none_iff_exists'.1 scale
      simp [Layout.scaleChars, scale]
  have whole : wholeLength (layout.chars ++ rest) = layout.whole.length := by
    rw [parts, wholeLength_layout ends]
  have fraction : fractionLength ((layout.chars ++ rest).drop layout.whole.length) =
      layout.fractionChars.length := by
    rw [parts, List.drop_left, fractionLength_layout ends]
  have scale : exponentLength ((layout.chars ++ rest).drop
      (layout.whole.length + layout.fractionChars.length)) = layout.scaleChars.length := by
    rw [parts, ← List.append_assoc, ← List.length_append, List.drop_left,
      exponentLength_layout ends]
  unfold readNumber
  simp only [whole, fraction, scale, counted, List.drop_left, List.take_left]
  rw [dif_pos (List.length_pos_of_ne_nil layout.nonempty), if_neg shown]
  exact ⟨_, rfl⟩

end Numbers

section Leaves

variable {negative : Bool} {cs rest : List Char} {c : Char} {data : Data}

theorem Yields.signed (digit : isAsciiDigit c)
    (yields : Yields (readNumber negative (c :: cs)) data rest) :
    Yields (readLeaf ((if negative then ['-'] else []) ++ c :: cs)) data rest := by
  have apart {d : Char} (letter : isAsciiDigit d = false) : c ≠ d := by
    rintro rfl
    exact absurd digit (Bool.eq_false_iff.1 letter)
  cases negative with
  | false =>
    change Yields (readLeaf (c :: cs)) data rest
    rw [readLeaf]
    · exact yields
    all_goals exact fun _ same => apart rfl (List.cons.inj same).1
  | true =>
    change Yields (readLeaf ('-' :: c :: cs)) data rest
    rw [readLeaf]
    · exact yields.within _
    · exact fun _ same => apart rfl (List.cons.inj same).1

end Leaves

end FormulaGrid.Json
