import FormulaGrid.Proofs.Decimal.Rational
import FormulaGrid.Proofs.Digits
import FormulaGrid.Value

/-! Numbers as plain text. A text is numeric when between whitespace there is a numeral: an optional
sign, and digits of any script with an optional point. Such a text counts as the number that it
denotes, with all its digits, and every other text as zero. -/
namespace FormulaGrid.Decimal

open FormulaGrid.Text

/-- Whether characters are an optional sign. -/
inductive SignChars : List Char → Bool → Prop
  | bare : SignChars [] false
  | plus : SignChars ['+'] false
  | minus : SignChars ['-'] true

/-- Whether characters are digits with an optional point, which digits stand before or behind. -/
inductive Pointed : List Char → List Nat → List Nat → Prop
  | whole {cs : List Char} {digits : List Nat} (denotes : Denotes cs digits)
      (nonempty : digits ≠ []) : Pointed cs digits []
  | point {before behind : List Char} {whole fraction : List Nat} (first : Denotes before whole)
      (second : Denotes behind fraction) (nonempty : whole ≠ [] ∨ fraction ≠ []) :
      Pointed (before ++ '.' :: behind) whole fraction

/-- Whether a text is a plain numeral between optional whitespace, with the given digits before and
behind the point. -/
def Numeric (text : List Char) (negative : Bool) (whole fraction : List Nat) : Prop :=
  ∃ lead sign body trail, text = lead ++ (sign ++ body) ++ trail ∧
    (∀ c ∈ lead, isBlank c) ∧ (∀ c ∈ trail, isBlank c) ∧
    SignChars sign negative ∧ Pointed body whole fraction

section Blanks

variable {lead middle trail : List Char}

theorem trim_blanks (before : ∀ c ∈ lead, isBlank c) (nonempty : middle ≠ [])
    (visible : ∀ c ∈ middle, isBlank c = false) (after : ∀ c ∈ trail, isBlank c) :
    trim (lead ++ middle ++ trail) = middle := by
  have first (c : Char) (head : (middle ++ trail).head? = some c) : isBlank c = false := by
    rw [List.head?_append_of_ne_nil _ nonempty] at head
    exact visible c (List.mem_of_head? head)
  have last (c : Char) (head : middle.reverse.head? = some c) : isBlank c = false :=
    visible c (List.mem_reverse.1 (List.mem_of_head? head))
  have trailing : ∀ c ∈ trail.reverse, isBlank c := fun c member =>
    after c (List.mem_reverse.1 member)
  rw [trim, trimWhere, List.append_assoc, dropWhile_run before first, List.reverse_append,
    dropWhile_run trailing last, List.reverse_reverse]

theorem exists_blanks (cs : List Char) :
    ∃ lead trail, cs = lead ++ trim cs ++ trail ∧ (∀ c ∈ lead, isBlank c) ∧
      ∀ c ∈ trail, isBlank c := by
  have back := congrArg List.reverse
    (List.takeWhile_append_dropWhile (p := isBlank) (l := (cs.dropWhile isBlank).reverse))
  rw [List.reverse_append, List.reverse_reverse] at back
  have trailing : ∀ c ∈ (cs.dropWhile isBlank).reverse.takeWhile isBlank, isBlank c := all_takeWhile
  refine ⟨cs.takeWhile isBlank, _, ?_, all_takeWhile, fun c member =>
    trailing c (List.mem_reverse.1 member)⟩
  rw [List.append_assoc, trim, trimWhere, back, List.takeWhile_append_dropWhile]

end Blanks

section Digits

variable {cs rest : List Char} {digits : List Nat}

theorem takeDigits_denotes (denotes : Denotes cs digits)
    (ends : ∀ c, rest.head? = some c → decimalDigit? c = none) :
    takeDigits (cs ++ rest) = (digits, rest) := by
  induction denotes with
  | nil =>
    cases rest with
    | nil => rfl
    | cons c rest => rw [List.nil_append, takeDigits, ends c rfl]
  | cons digit _ ih => rw [List.cons_append, takeDigits, decimalDigit?_eq_some_iff.2 digit, ih]

theorem takeDigits_all (denotes : Denotes cs digits) : takeDigits cs = (digits, []) := by
  have taken : takeDigits (cs ++ []) = (digits, []) := takeDigits_denotes denotes nofun
  rwa [List.append_nil] at taken

theorem exists_takeDigits (cs : List Char) :
    ∃ run digits rest, cs = run ++ rest ∧ Denotes run digits ∧ takeDigits cs = (digits, rest) := by
  induction cs with
  | nil => exact ⟨[], [], [], rfl, .nil, rfl⟩
  | cons c cs ih =>
    rw [takeDigits]
    cases read : decimalDigit? c with
    | none => exact ⟨[], [], c :: cs, rfl, .nil, rfl⟩
    | some digit =>
      obtain ⟨run, digits, rest, split, denotes, taken⟩ := ih
      refine ⟨c :: run, digit :: digits, rest, by rw [split]; rfl,
        .cons (decimalDigit?_eq_some_iff.1 read) denotes, ?_⟩
      rw [taken]

end Digits

section Parts

variable {sign body : List Char} {negative : Bool} {whole fraction : List Nat}

theorem SignChars.plain (signed : SignChars sign negative) :
    ∀ c ∈ sign, isBlank c = false ∧ c ≠ '_' := by
  cases signed with
  | bare => simp
  | plus | minus => exact List.forall_mem_singleton.2 ⟨rfl, by decide⟩

theorem takeSign_signChars (signed : SignChars sign negative)
    (ends : ∀ c, body.head? = some c → c ≠ '+' ∧ c ≠ '-') :
    takeSign (sign ++ body) = (negative, body) := by
  cases signed with
  | plus | minus => rfl
  | bare =>
    cases body with
    | nil => rfl
    | cons c body =>
      obtain ⟨plus, minus⟩ := ends c rfl
      rw [List.nil_append, takeSign.eq_3 _ (by simp [minus]) (by simp [plus])]

theorem exists_takeSign (cs : List Char) :
    ∃ sign negative body, cs = sign ++ body ∧ SignChars sign negative ∧
      takeSign cs = (negative, body) := by
  unfold takeSign
  split
  next body => exact ⟨['-'], true, body, rfl, .minus, rfl⟩
  next body => exact ⟨['+'], false, body, rfl, .plus, rfl⟩
  next => exact ⟨[], false, cs, rfl, .bare, rfl⟩

theorem Pointed.plain (pointed : Pointed body whole fraction) :
    ∀ c ∈ body, isBlank c = false ∧ c ≠ '+' ∧ c ≠ '-' ∧ c ≠ '_' := by
  have digit {cs : List Char} {digits : List Nat} (denotes : Denotes cs digits) :
      ∀ c ∈ cs, isBlank c = false ∧ c ≠ '+' ∧ c ≠ '-' ∧ c ≠ '_' := by
    intro c member
    obtain ⟨value, written⟩ := denotes.isDigit c member
    exact ⟨written.visible, written.ne rfl, written.ne rfl, written.ne rfl⟩
  cases pointed with
  | whole denotes => exact digit denotes
  | point first second =>
    exact List.forall_mem_append.2
      ⟨digit first, List.forall_mem_cons.2 ⟨by decide, digit second⟩⟩

theorem Pointed.nonempty (pointed : Pointed body whole fraction) : whole ++ fraction ≠ [] := by
  cases pointed with
  | whole _ nonempty => simpa using nonempty
  | point _ _ nonempty => simpa [imp_iff_not_or] using nonempty

theorem Pointed.isEmpty (pointed : Pointed body whole fraction) :
    (whole.isEmpty && fraction.isEmpty) = false := by
  have digits := pointed.nonempty
  cases whole <;> cases fraction <;> simp_all

theorem Pointed.length (pointed : Pointed body whole fraction) :
    whole.length + fraction.length ≤ body.length := by
  cases pointed with
  | whole denotes => exact denotes.length_eq.ge
  | point first second =>
    rw [List.length_append, List.length_cons, first.length_eq, second.length_eq]
    omega

theorem Pointed.small (pointed : Pointed body whole fraction) :
    ∀ digit ∈ whole ++ fraction, digit < 10 := by
  cases pointed with
  | whole denotes => simpa using denotes.small
  | point first second => exact List.forall_mem_append.2 ⟨first.small, second.small⟩

theorem Pointed.ne_nil (pointed : Pointed body whole fraction) : body ≠ [] := by
  have digits := List.length_pos_of_ne_nil pointed.nonempty
  rw [List.length_append] at digits
  exact List.ne_nil_of_length_pos (digits.trans_le pointed.length)

end Parts

section Mantissa

variable {body rest : List Char} {whole fraction : List Nat}

theorem pointed_ascii {whole fraction : List Char} (nonempty : whole ≠ [])
    (digits : ∀ c ∈ whole ++ fraction, isAsciiDigit c) :
    Pointed (whole ++ if fraction = [] then [] else '.' :: fraction)
      (whole.map fun c => c.toNat - '0'.toNat) (fraction.map fun c => c.toNat - '0'.toNat) := by
  obtain ⟨before, behind⟩ := List.forall_mem_append.1 digits
  have some_digits : whole.map (fun c => c.toNat - '0'.toNat) ≠ [] := by simpa using nonempty
  split
  next none =>
    rw [none, List.append_nil]
    exact .whole (denotes_ascii before) some_digits
  next => exact .point (denotes_ascii before) (denotes_ascii behind) (.inl some_digits)

theorem takeMantissa?_pointed (pointed : Pointed body whole fraction)
    (ends : ∀ c, rest.head? = some c → decimalDigit? c = none ∧ c ≠ '.') :
    takeMantissa? (body ++ rest) =
      some (valueOfDigits (whole ++ fraction), fraction.length, rest) := by
  have stops (c : Char) (head : rest.head? = some c) := (ends c head).1
  have nonempty := pointed.isEmpty
  unfold takeMantissa?
  cases pointed with
  | whole denotes =>
    rw [takeDigits_denotes denotes stops]
    cases rest with
    | nil => simpa using nonempty
    | cons c rest => simpa [(ends c rfl).2] using nonempty
  | @point before behind _ _ first second =>
    have point (c : Char) (head : ('.' :: (behind ++ rest)).head? = some c) :
        decimalDigit? c = none := by
      cases head
      rfl
    rw [List.append_assoc, List.cons_append, takeDigits_denotes first point]
    simp only [takeDigits_denotes second stops, nonempty, Bool.false_eq_true, if_false]

theorem pointed_of_takeMantissa? {coefficient places : Nat}
    (taken : takeMantissa? body = some (coefficient, places, [])) :
    ∃ whole fraction, Pointed body whole fraction ∧
      coefficient = valueOfDigits (whole ++ fraction) ∧ places = fraction.length := by
  obtain ⟨run, whole, rest, rfl, first, before⟩ := exists_takeDigits body
  unfold takeMantissa? at taken
  rw [before] at taken
  cases rest with
  | nil =>
    obtain ⟨nonempty, rfl, rfl⟩ : whole ≠ [] ∧ valueOfDigits whole = coefficient ∧ 0 = places := by
      simpa using taken
    rw [List.append_nil]
    exact ⟨whole, [], .whole first nonempty, by rw [List.append_nil], rfl⟩
  | cons c rest =>
    by_cases point : c = '.'
    · subst point
      obtain ⟨run', fraction, rest', rfl, second, behind⟩ := exists_takeDigits rest
      obtain ⟨nonempty, rfl, rfl, rfl⟩ : (whole = [] → fraction ≠ []) ∧
          valueOfDigits (whole ++ fraction) = coefficient ∧ fraction.length = places ∧
            rest' = [] := by
        simpa [behind] using taken
      rw [List.append_nil]
      exact ⟨whole, fraction, .point first second (or_iff_not_imp_left.2 fun some => nonempty
        (not_not.1 some)), rfl, rfl⟩
    · simp [point] at taken

end Mantissa

section Texts

variable {cs : List Char} {negative : Bool} {whole fraction : List Nat} {x : Decimal}

theorem Numeric.trimmed (numeric : Numeric cs negative whole fraction) :
    ∃ sign body, trim cs = sign ++ body ∧ SignChars sign negative ∧
      Pointed body whole fraction := by
  obtain ⟨lead, sign, body, trail, rfl, before, after, signed, pointed⟩ := numeric
  refine ⟨sign, body, ?_, signed, pointed⟩
  refine trim_blanks before (List.append_ne_nil_of_right_ne_nil _ pointed.ne_nil) ?_ after
  exact List.forall_mem_append.2
    ⟨fun c member => (signed.plain c member).1, fun c member => (pointed.plain c member).1⟩

theorem numeric_of_trimmed {sign body : List Char} (split : trim cs = sign ++ body)
    (signed : SignChars sign negative) (pointed : Pointed body whole fraction) :
    Numeric cs negative whole fraction := by
  obtain ⟨lead, trail, same, before, after⟩ := exists_blanks cs
  exact ⟨lead, sign, body, trail, split ▸ same, before, after, signed, pointed⟩

theorem takeSign_pointed {sign body : List Char} (signed : SignChars sign negative)
    (pointed : Pointed body whole fraction) : takeSign (sign ++ body) = (negative, body) :=
  takeSign_signChars signed fun c head =>
    have plain := pointed.plain c (List.mem_of_head? head)
    ⟨plain.2.1, plain.2.2.1⟩

theorem takeMantissa?_all {body : List Char} (pointed : Pointed body whole fraction) :
    takeMantissa? body = some (valueOfDigits (whole ++ fraction), fraction.length, []) := by
  have taken : takeMantissa? (body ++ []) =
      some (valueOfDigits (whole ++ fraction), fraction.length, []) :=
    takeMantissa?_pointed pointed nofun
  rwa [List.append_nil] at taken

/-- The numeric texts are just those that are read as numbers, and each as the number of its
digits. -/
theorem ofNumericText?_eq_some_iff : ofNumericText? cs = some x ↔
    ∃ negative whole fraction, Numeric cs negative whole fraction ∧
      x = .finite negative (valueOfDigits (whole ++ fraction)) (-(fraction.length : Int)) := by
  constructor
  · intro read
    obtain ⟨sign, negative, body, split, signed, taken⟩ := exists_takeSign (trim cs)
    unfold ofNumericText? at read
    rw [taken] at read
    dsimp only at read
    split at read
    next coefficient places mantissa =>
      obtain ⟨whole, fraction, pointed, rfl, rfl⟩ := pointed_of_takeMantissa? mantissa
      exact ⟨negative, whole, fraction, numeric_of_trimmed split signed pointed,
        (Option.some.inj read).symm⟩
    · cases read
  · rintro ⟨negative, whole, fraction, numeric, rfl⟩
    obtain ⟨sign, body, split, signed, pointed⟩ := numeric.trimmed
    unfold ofNumericText?
    rw [split, takeSign_pointed signed pointed]
    dsimp only
    rw [takeMantissa?_all pointed]

theorem Numeric.length (numeric : Numeric cs negative whole fraction) :
    whole.length + fraction.length ≤ cs.length := by
  obtain ⟨lead, sign, body, trail, rfl, -, -, -, pointed⟩ := numeric
  have digits := pointed.length
  simp only [List.length_append]
  omega

/-- The bounds of numerals in general are out of reach for numeric texts of fewer digits than the
greatest exponent. -/
theorem ofNumeral?_numeric (numeric : Numeric cs negative whole fraction)
    (short : (cs.length : Int) ≤ maxNumeralExponent) : ofNumeral? cs = ofNumericText? cs := by
  have read := ofNumericText?_eq_some_iff.2 ⟨negative, whole, fraction, numeric, rfl⟩
  have digits := numeric.length
  obtain ⟨sign, body, split, signed, pointed⟩ := numeric.trimmed
  have ungrouped : (sign ++ body).filter (· != '_') = sign ++ body := by
    rw [List.filter_eq_self]
    intro c member
    rcases List.mem_append.1 member with inside | inside
    · exact bne_iff_ne.2 (signed.plain c inside).2
    · exact bne_iff_ne.2 (pointed.plain c inside).2.2.2
  have bounded : ¬ (maxNumeralExponent < adjusted (valueOfDigits (whole ++ fraction))
      (-(fraction.length : Int)) ∨ -(fraction.length : Int) < minNumeralExponent) := by
    have positive := List.length_pos_of_ne_nil pointed.nonempty
    have count := digitCount_le positive (valueOfDigits_lt pointed.small)
    rw [List.length_append] at count
    unfold adjusted
    unfold maxNumeralExponent at short ⊢
    unfold minNumeralExponent
    omega
  unfold ofNumeral?
  rw [read, split, ungrouped, takeSign_pointed signed pointed]
  dsimp only
  rw [takeMantissa?_all pointed]
  simp only [takeExponent?, Option.bind_eq_bind, Option.bind_some, zero_sub, if_neg bounded]

end Texts

end FormulaGrid.Decimal

namespace FormulaGrid.Value

open FormulaGrid.Decimal FormulaGrid.Text

/-- A text counts as the number that it denotes, with all its digits, if it is numeric, and as zero
otherwise. The reader of numerals in general, which has bounds on exponents, takes each of these
numerals for the same number. -/
theorem toNumber_text (text : String) :
    (∀ negative whole fraction, Numeric text.toList negative whole fraction →
      (Value.text text).toNumber =
        .finite negative (Nat.ofDigits 10 (whole ++ fraction).reverse) (-(fraction.length : Int))) ∧
    ((∀ negative whole fraction, ¬ Numeric text.toList negative whole fraction) →
      (Value.text text).toNumber = .zero) ∧
    (∀ negative whole fraction, Numeric text.toList negative whole fraction →
      text.length < 10 ^ 18 → ofNumeral? text.toList = some (Value.text text).toNumber) := by
  have counted {negative : Bool} {whole fraction : List Nat}
      (numeric : Numeric text.toList negative whole fraction) :
      ofNumericText? text.toList = some (Value.text text).toNumber := by
    have read := ofNumericText?_eq_some_iff.2 ⟨negative, whole, fraction, numeric, rfl⟩
    rw [toNumber, read, Option.getD_some]
  refine ⟨fun negative whole fraction numeric => ?_, fun plain => ?_,
    fun negative whole fraction numeric short => ?_⟩
  · have read := ofNumericText?_eq_some_iff.2 ⟨negative, whole, fraction, numeric, rfl⟩
    rw [counted numeric] at read
    rw [Option.some.inj read, valueOfDigits_eq]
  · have unread : ofNumericText? text.toList = none := by
      rw [Option.eq_none_iff_forall_ne_some]
      intro x read
      obtain ⟨negative, whole, fraction, numeric, -⟩ := ofNumericText?_eq_some_iff.1 read
      exact plain negative whole fraction numeric
    rw [toNumber, unread, Option.getD_none]
  · rw [← counted numeric, ofNumeral?_numeric numeric]
    rw [String.length_toList]
    unfold maxNumeralExponent
    omega

/-- A numeral with a sign and a point, in the digits of three scripts, and one that would need an
exponent. -/
theorem toNumber_text_mixed :
    ((Value.text " -٣.１4\n").toNumber = .finite true 314 (-2) ∧
      ofNumeral? " -٣.１4\n".toList = some (Value.text " -٣.１4\n").toNumber) ∧
    (Value.text "1e5").toNumber = .zero := by
  have numeric : Numeric " -٣.１4\n".toList true [3] [1, 4] := by
    have before : Denotes ['٣'] [3] := denotes_iff.2 rfl
    have behind : Denotes ['１', '4'] [1, 4] := denotes_iff.2 rfl
    exact ⟨[' '], ['-'], ['٣', '.', '１', '4'], ['\n'], rfl, by simp; rfl, by simp; rfl, .minus,
      .point before behind (.inl (by simp))⟩
  have exponential (negative : Bool) (whole fraction : List Nat) :
      ¬ Numeric "1e5".toList negative whole fraction := by
    intro numeric
    have read := ofNumericText?_eq_some_iff.2 ⟨negative, whole, fraction, numeric, rfl⟩
    have unread : ofNumericText? "1e5".toList = none := by decide
    rw [unread] at read
    cases read
  refine ⟨⟨?_, ?_⟩, ?_⟩
  · exact (toNumber_text " -٣.１4\n").1 true [3] [1, 4] numeric
  · exact (toNumber_text " -٣.１4\n").2.2 true [3] [1, 4] numeric (by decide)
  · exact (toNumber_text "1e5").2.1 exponential

end FormulaGrid.Value
