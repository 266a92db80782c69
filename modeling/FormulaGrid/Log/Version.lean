import FormulaGrid.Data.Basic
import FormulaGrid.Decimal.Double
import FormulaGrid.Text.Numeral

/-! The version in a log entry is a whole number, given as a number, a truth value or text. A text
may stand between whitespace and have a sign, leading zeros, a fraction of zeros and single
underscores; without these it has to be an integer in its shortest form. -/
namespace FormulaGrid.Log

open FormulaGrid.Data FormulaGrid.Text

/-- The sign of a text, true for a minus, and what follows it, which may not be a minus sign as
well. -/
def takeSign? : List Char → Option (Bool × List Char)
  | '+' :: '-' :: _ => none
  | '-' :: '-' :: _ => none
  | cs => some (Decimal.takeSign cs)

/-- What follows zeros, of which the last character read is given. One of them stays in front of a
point or at the end of the text. Underscores count among the zeros, and a minus sign may follow
them. -/
def afterZeros? (last : Char) : List Char → Option (List Char)
  | [] => some [last]
  | c :: cs =>
    if c == '0' || c == '_' then afterZeros? c cs
    else if c == '.' then some (last :: c :: cs)
    else if c == '-' || isAsciiDigit c then some (c :: cs)
    else none

/-- The text without its leading zeros. It starts with a digit or a minus sign. -/
def withoutLeadingZeros? : List Char → Option (List Char)
  | [] => none
  | c :: cs =>
    if c == '0' then afterZeros? c cs
    else if c == '-' || isAsciiDigit c then some (c :: cs)
    else none

/-- The text without its fraction, which may hold nothing but zeros and needs at least one. -/
def withoutFraction? (cs : List Char) : Option (List Char) :=
  match cs.dropWhile (· != '.') with
  | [] => some cs
  | _ :: fraction =>
    if !fraction.isEmpty && fraction.all (· == '0') then some (cs.takeWhile (· != '.')) else none

/-- The text without its underscores. An underscore and the end of the text may only come after
another character. -/
def withoutUnderscores? : Bool → List Char → Option (List Char)
  | afterOther, [] => if afterOther then some [] else none
  | afterOther, c :: cs =>
    if c == '_' then if afterOther then withoutUnderscores? false cs else none
    else (withoutUnderscores? true cs).map (c :: ·)

/-- The integer that a text denotes in its shortest form: an optional minus sign and digits, the
first of which is zero only if there are no others. The sign counts toward the greatest length. -/
def shortestInteger? (cs : List Char) : Option Int :=
  let (negative, digits) := match cs with
    | '-' :: digits => (true, digits)
    | digits => (false, digits)
  let padded := digits.head? == some '0' && digits != ['0']
  if digits.isEmpty || padded || !digits.all isAsciiDigit || maxNumeralDigits < cs.length then none
  else some (Decimal.signed negative (valueOfDigits (digits.filterMap decimalDigit?)))

/-- The integer that a text denotes. The minus sign may also stand behind the leading zeros, if no
other does in front of them. -/
def versionOfText? (cs : List Char) : Option Int := do
  let (negative, unsigned) ← takeSign? (trimWhere isPadding cs)
  let unpadded ← withoutLeadingZeros? unsigned
  let whole ← withoutFraction? unpadded
  let numeral ← withoutUnderscores? false whole
  shortestInteger? (if negative then '-' :: numeral else numeral)

def floatVersionBound : Nat := Nat.pow 2 63

def versionOfFloat? (numeral : String) : Option Int :=
  match Decimal.ofNumeral? numeral.toList with
  | some (.finite negative coefficient exponent) => do
    let x ← Double.ofDecimal? coefficient exponent
    if x.isWhole && x.whole < floatVersionBound then return Decimal.signed negative x.whole
    else none
  | _ => none

/-- A whole number where a record needs one: a number without a fraction, a truth value, or text
with such a number. -/
def versionOf? : Data → Option Int
  | .integer value => some value
  | .boolean value => some (if value then 1 else 0)
  | .float numeral => versionOfFloat? numeral
  | .text written => versionOfText? written.toList
  | _ => none

end FormulaGrid.Log
