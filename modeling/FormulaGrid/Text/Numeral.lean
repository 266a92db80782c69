import FormulaGrid.Text.Blank
import FormulaGrid.Text.Digit

/-! Integers as text. Whole numbers are read in any script, with a sign and with single underscores
between digits; a numeral of more than a fixed number of digits is refused, in reading and in
writing. -/
namespace FormulaGrid.Text

/-- The greatest number of digits of an integer that is read or written as text. -/
def maxNumeralDigits : Nat := 4300

inductive NumeralError where
  | malformed
  | tooLong (digits : Nat)
  deriving DecidableEq, Repr

/-- The values of digits with single underscores between them, if the text holds nothing else. An
underscore and the end of the text may only come after a digit. -/
def groupedDigits? : Bool → List Char → Option (List Nat)
  | afterDigit, [] => if afterDigit then some [] else none
  | afterDigit, c :: cs =>
    if c == '_' then if afterDigit then groupedDigits? false cs else none
    else do
      let digit ← decimalDigit? c
      let digits ← groupedDigits? true cs
      return digit :: digits

/-- Whitespace that may stand around an integer. The controls that separate fields may not. -/
def isPadding (c : Char) : Bool :=
  isBlank c && !(0x1C ≤ c.toNat && c.toNat ≤ 0x1F)

def isNumeralChar (c : Char) : Bool :=
  c == '_' || (decimalDigit? c).isSome

/-- The integer that a text denotes, with whitespace at its ends allowed. A numeral that is too long
is refused whatever follows it. -/
def readInteger (cs : List Char) : Except NumeralError Int :=
  let (negative, body) := match cs.dropWhile isPadding with
    | '-' :: body => (true, body)
    | '+' :: body => (false, body)
    | body => (false, body)
  match groupedDigits? false (body.takeWhile isNumeralChar) with
  | none => .error .malformed
  | some digits =>
    if maxNumeralDigits < digits.length then .error (.tooLong digits.length)
    else if (body.dropWhile isNumeralChar).all isPadding then
      .ok (if negative then -(valueOfDigits digits : Int) else valueOfDigits digits)
    else .error .malformed

def tooLongMessage (digits : Nat) : String :=
  s!"Exceeds the limit ({maxNumeralDigits} digits) for integer string conversion: " ++
    s!"value has {digits} digits; use sys.set_int_max_str_digits() to increase the limit"

def tooGreatMessage : String :=
  s!"Exceeds the limit ({maxNumeralDigits} digits) for integer string conversion; " ++
    "use sys.set_int_max_str_digits() to increase the limit"

end FormulaGrid.Text
