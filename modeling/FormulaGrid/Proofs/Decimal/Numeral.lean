import FormulaGrid.Json.Read
import FormulaGrid.Proofs.Decimal.Double
import FormulaGrid.Proofs.Decimal.NumericText

/-! Numerals of double precision, written and read. The numeral of a magnitude has a whole part, a
fraction or an exponent, and the decimal number that these denote is read as the magnitude. -/
namespace FormulaGrid.Decimal

open FormulaGrid.Text

section Digits

theorem toList_toString (n : Nat) : (toString n).toList = Nat.toDigits 10 n := by
  rw [Nat.toString_eq_ofList_toDigits, String.toList_ofList]

theorem length_toDigits (n : Nat) : (Nat.toDigits 10 n).length = digitCount n := by
  rcases Nat.eq_zero_or_pos n with rfl | positive
  · decide
  · apply Nat.le_antisymm
    · exact (Nat.length_toDigits_le_iff (by decide) (digitCount_pos positive)).2 (lt_pow_digitCount n)
    · have short := (Nat.length_toDigits_le_iff (by decide) Nat.length_toDigits_pos).1
        (Nat.le_refl (Nat.toDigits 10 n).length)
      have fewer := (Nat.pow_lt_pow_iff_right (by decide)).1 ((pow_digitCount_le positive).trans_lt short)
      omega

end Digits

/-- A numeral in its parts: digits, digits behind a point, and an exponent. It does not begin with a
zero but for the zero in front of a point, and shows that it is no integer. -/
structure Layout where
  whole : List Char
  fraction : List Char
  scale : Option (Bool × List Char)
  nonempty : whole ≠ []
  digits : ∀ c ∈ whole ++ fraction, isAsciiDigit c
  unpadded : whole.head? = some '0' → whole = ['0']
  scaled : ∀ negative exponent, scale = some (negative, exponent) →
    exponent ≠ [] ∧ ∀ c ∈ exponent, isAsciiDigit c
  fractional : fraction ≠ [] ∨ scale ≠ none

namespace Layout

def fractionChars (layout : Layout) : List Char :=
  if layout.fraction = [] then [] else '.' :: layout.fraction

def scaleChars (layout : Layout) : List Char :=
  match layout.scale with
  | none => []
  | some (negative, exponent) => 'e' :: (if negative then '-' else '+') :: exponent

def chars (layout : Layout) : List Char :=
  layout.whole ++ layout.fractionChars ++ layout.scaleChars

def coefficient (layout : Layout) : Nat :=
  Nat.ofDigitChars 10 (layout.whole ++ layout.fraction) 0

def scaleValue (layout : Layout) : ℤ :=
  match layout.scale with
  | none => 0
  | some (negative, exponent) => signed negative (Nat.ofDigitChars 10 exponent 0)

variable {layout : Layout}

theorem takeExponent?_scaleChars : takeExponent? layout.scaleChars = some layout.scaleValue := by
  unfold scaleChars scaleValue
  cases scale : layout.scale with
  | none => rfl
  | some parts =>
    obtain ⟨negative, exponent⟩ := parts
    obtain ⟨nonempty, all⟩ := layout.scaled negative exponent scale
    obtain ⟨c, cs, rfl⟩ := List.exists_cons_of_ne_nil nonempty
    have signed : takeSign ((if negative then '-' else '+') :: c :: cs) = (negative, c :: cs) := by
      cases negative <;> rfl
    rw [takeExponent?, if_pos (by decide), signed]
    dsimp only
    rw [takeDigits_all (denotes_ascii all), ← valueOfDigits_ascii]
    rfl

theorem head_scaleChars {c : Char} (head : layout.scaleChars.head? = some c) : c = 'e' := by
  unfold scaleChars at head
  split at head
  · cases head
  · exact (Option.some.inj head).symm

theorem takeMantissa?_chars :
    takeMantissa? layout.chars =
      some (layout.coefficient, layout.fraction.length, layout.scaleChars) := by
  have scaleEnds (c : Char) (head : layout.scaleChars.head? = some c) :
      decimalDigit? c = none ∧ c ≠ '.' := by
    rw [head_scaleChars head]
    exact ⟨rfl, by decide⟩
  rw [chars, fractionChars,
    takeMantissa?_pointed (pointed_ascii layout.nonempty layout.digits) scaleEnds, ← List.map_append,
    valueOfDigits_ascii, List.length_map, coefficient]

theorem begins (layout : Layout) : ∃ c cs, layout.chars = c :: cs ∧ isAsciiDigit c := by
  obtain ⟨c, cs, split⟩ := List.exists_cons_of_ne_nil layout.nonempty
  refine ⟨c, cs ++ layout.fractionChars ++ layout.scaleChars, ?_, ?_⟩
  · rw [chars, split]
    rfl
  · exact layout.digits c (by rw [split]; exact List.mem_cons_self)

def exponent (layout : Layout) : ℤ :=
  layout.scaleValue - layout.fraction.length

theorem floatNumeral_chars (negative : Bool) :
    Json.floatNumeral negative layout.chars =
      Double.numeral negative layout.coefficient layout.exponent := by
  rw [Json.floatNumeral, takeMantissa?_chars]
  dsimp only
  rw [takeExponent?_scaleChars]
  rfl

end Layout

section Written

variable {digits : List Char} {places : Nat}

theorem pointed_eq (digits : List Char) (positive : 0 < places) :
    ∃ whole fraction padding, pointed digits places = whole ++ '.' :: fraction ∧
      whole ++ fraction = List.replicate padding '0' ++ digits ∧ fraction.length = places ∧
      whole ≠ [] ∧ (whole.length = 1 ∨ padding = 0) := by
  have long : (List.replicate (places + 1 - digits.length) '0' ++ digits).length =
      places + 1 - digits.length + digits.length := by
    rw [List.length_append, List.length_replicate]
  refine ⟨_, _, places + 1 - digits.length, if_neg (Nat.ne_of_gt positive),
    List.take_append_drop _ _, ?_, List.ne_nil_of_length_pos ?_, ?_⟩
  · rw [List.length_drop, long]
    omega
  · rw [List.length_take, long]
    omega
  · rw [List.length_take, long]
    omega

theorem exists_pointed (positive : 0 < places) (all : ∀ c ∈ digits, isAsciiDigit c)
    (unpadded : digits.head? ≠ some '0') :
    ∃ layout : Layout, pointed digits places = layout.chars ∧
      layout.coefficient = Nat.ofDigitChars 10 digits 0 ∧ layout.exponent = -places := by
  obtain ⟨whole, fraction, padding, written, joined, counted, nonempty, begins⟩ :=
    pointed_eq digits positive
  have fractional : fraction ≠ [] := List.ne_nil_of_length_pos (counted ▸ positive)
  have digital (c : Char) (member : c ∈ whole ++ fraction) : isAsciiDigit c := by
    rw [joined] at member
    rcases List.mem_append.1 member with zero | digit
    · rw [List.eq_of_mem_replicate zero]
      rfl
    · exact all c digit
  have single (zero : whole.head? = some '0') : whole = ['0'] := by
    obtain ⟨rest, rfl⟩ := List.head?_eq_some_iff.1 zero
    rcases begins with one | rfl
    · rw [List.length_eq_zero_iff.1 (Nat.succ.inj one)]
    · exact absurd (by rw [← List.nil_append digits]; exact joined ▸ rfl) unpadded
  refine ⟨⟨whole, fraction, none, nonempty, digital, single, nofun, .inl fractional⟩, ?_, ?_, ?_⟩
  · rw [written, Layout.chars, Layout.fractionChars, if_neg fractional]
    exact (List.append_nil _).symm
  · rw [Layout.coefficient, joined, Nat.ofDigitChars_append, Nat.ofDigitChars_replicate_zero,
      Nat.mul_zero]
  · rw [Layout.exponent, counted]
    exact zero_sub _

theorem exists_scientific {first : Char} {rest exponent : List Char} {shift : ℤ}
    (all : ∀ c ∈ first :: rest, isAsciiDigit c) (unpadded : first ≠ '0')
    (allScaled : ∀ c ∈ exponent, isAsciiDigit c) (scaled : exponent ≠ [])
    (value : Nat.ofDigitChars 10 exponent 0 = shift.natAbs) :
    ∃ layout : Layout,
      mantissa (first :: rest) ++ 'e' :: (if shift < 0 then '-' else '+') :: exponent =
        layout.chars ∧
      layout.coefficient = Nat.ofDigitChars 10 (first :: rest) 0 ∧
      layout.exponent = shift - rest.length := by
  refine ⟨{
    whole := [first]
    fraction := rest
    scale := some (decide (shift < 0), exponent)
    nonempty := by simp
    digits := all
    unpadded := fun zero => absurd (Option.some.inj (zero : some first = some '0')) unpadded
    scaled := by rintro _ _ ⟨⟩; exact ⟨scaled, allScaled⟩
    fractional := .inr (by simp) }, ?_, rfl, ?_⟩
  · cases rest <;> simp [mantissa, Layout.chars, Layout.fractionChars, Layout.scaleChars]
  · change signed (decide (shift < 0)) (Nat.ofDigitChars 10 exponent 0) - (rest.length : ℤ) = _
    rw [value, signed_natAbs]

end Written

section Chars

variable {c : Nat} {place : ℤ}

theorem toDigits_all (n : Nat) : ∀ c ∈ Nat.toDigits 10 n, isAsciiDigit c :=
  fun _ => isAsciiDigit_of_mem_toDigits

theorem zeros_all (n : Nat) : ∀ c ∈ List.replicate n '0', isAsciiDigit c :=
  fun _ zero => List.eq_of_mem_replicate zero ▸ rfl

theorem exists_plain (positive : 0 < c) :
    ∃ layout : Layout, Double.plainChars c place = layout.chars ∧
      (layout.coefficient : ℚ) * 10 ^ layout.exponent = c * 10 ^ place := by
  have value : Nat.ofDigitChars 10 (Nat.toDigits 10 c) 0 = c := Nat.ofDigitChars_ten_toDigits
  unfold Double.plainChars
  rw [toList_toString]
  dsimp only
  split
  next up =>
    obtain ⟨n, rfl⟩ := Int.eq_ofNat_of_zero_le up
    have all : ∀ d ∈ Nat.toDigits 10 c ++ List.replicate (n + 1) '0', isAsciiDigit d :=
      List.forall_mem_append.2 ⟨toDigits_all c, zeros_all _⟩
    have unpadded : (Nat.toDigits 10 c ++ List.replicate (n + 1) '0').head? ≠ some '0' := by
      rw [List.head?_append_of_ne_nil _ Nat.toDigits_ne_nil]
      exact head_toDigits positive
    obtain ⟨layout, written, coefficient, exponent⟩ := exists_pointed Nat.one_pos all unpadded
    refine ⟨layout, written, ?_⟩
    rw [coefficient, exponent, Nat.ofDigitChars_append, value, Nat.ofDigitChars_replicate_zero]
    push_cast
    rw [zpow_neg, zpow_natCast]
    ring
  next down =>
    obtain ⟨layout, written, coefficient, exponent⟩ :=
      exists_pointed (show 0 < place.natAbs by omega) (toDigits_all c) (head_toDigits positive)
    refine ⟨layout, written, ?_⟩
    rw [coefficient, value, exponent]
    congr 2
    omega

theorem exists_scientificChars (positive : 0 < c) :
    ∃ layout : Layout, Double.scientificChars c (adjusted c place) = layout.chars ∧
      (layout.coefficient : ℚ) * 10 ^ layout.exponent = c * 10 ^ place := by
  have value (n : Nat) : Nat.ofDigitChars 10 (Nat.toDigits 10 n) 0 = n :=
    Nat.ofDigitChars_ten_toDigits
  have counted := length_toDigits c
  have all := toDigits_all c
  have unpadded := head_toDigits positive
  have same := value c
  obtain ⟨first, rest, split⟩ := List.exists_cons_of_ne_nil (Nat.toDigits_ne_nil (n := c) (b := 10))
  unfold Double.scientificChars
  rw [toList_toString, toList_toString]
  dsimp only
  rw [split] at counted all unpadded same ⊢
  generalize shifted : adjusted c place = shift
  have zeros : ∀ d ∈ List.replicate (2 - (Nat.toDigits 10 shift.natAbs).length) '0' ++
      Nat.toDigits 10 shift.natAbs, isAsciiDigit d :=
    List.forall_mem_append.2 ⟨zeros_all _, toDigits_all _⟩
  obtain ⟨layout, written, coefficient, exponent⟩ := exists_scientific all
    (fun zero => unpadded (congrArg some zero)) zeros
    (List.append_ne_nil_of_right_ne_nil _ Nat.toDigits_ne_nil)
    (by rw [Nat.ofDigitChars_append, Nat.ofDigitChars_replicate_zero, Nat.mul_zero, value])
  refine ⟨layout, written, ?_⟩
  rw [coefficient, same, exponent]
  have place : shift - rest.length = place := by
    rw [← shifted, adjusted, ← counted, List.length_cons]
    omega
  rw [place]

/-- The numeral of a magnitude has a layout, and the number it denotes is read as the magnitude. -/
theorem exists_layout {x : Double} (regular : x.Regular) :
    ∃ layout : Layout, x.chars = layout.chars ∧
      Double.ofDecimal? layout.coefficient layout.exponent = some x := by
  unfold Double.chars
  split
  next zero =>
    have exponent : x.exponent = -1074 := by
      rcases regular.normal with least | large
      · exact least
      · omega
    refine ⟨⟨['0'], ['0'], none, by simp, List.all_eq_true.1 rfl, fun _ => rfl, nofun,
      by simp⟩, rfl, ?_⟩
    have same : x = ⟨0, -1074⟩ := by rw [← zero, ← exponent]
    rw [same]
    exact Double.ofDecimal?_zero _
  next nonzero =>
    have positive := Nat.pos_of_ne_zero nonzero
    have rounds := Double.holds_iff.1 (Double.shortest_holds regular positive)
    have counted := rounds.count_pos positive
    have read {layout : Layout} (same : (layout.coefficient : ℚ) * 10 ^ layout.exponent =
        x.shortest.1 * 10 ^ x.shortest.2) :
        Double.ofDecimal? layout.coefficient layout.exponent = some x :=
      Double.ofDecimal?_of_rounds regular positive (same ▸ rounds)
    dsimp only
    split
    · obtain ⟨layout, written, same⟩ := exists_plain counted
      exact ⟨layout, written, read same⟩
    · obtain ⟨layout, written, same⟩ := exists_scientificChars counted
      exact ⟨layout, written, read same⟩

theorem floatNumeral_of_layout {x : Double} {layout : Layout} (written : x.chars = layout.chars)
    (read : Double.ofDecimal? layout.coefficient layout.exponent = some x) (negative : Bool) :
    Json.floatNumeral negative layout.chars =
      String.ofList ((if negative then ['-'] else []) ++ layout.chars) := by
  rw [Layout.floatNumeral_chars, Double.numeral, read, ← written]

end Chars

end FormulaGrid.Decimal
