import FormulaGrid.Decimal.Basic
import FormulaGrid.Text.Blank
import FormulaGrid.Text.Digit

/-! Decimal numbers as text. `toText` shows coefficient and exponent apart, in plain notation for
moderate numbers and in scientific notation otherwise; `toPlain` never uses an exponent. A cell
text is numeric when it is a plain numeral between optional whitespace; `ofNumeral?` reads what
`toText` writes. -/
namespace FormulaGrid.Decimal

open FormulaGrid.Text

def pointed (digits : List Char) (places : Nat) : List Char :=
  if places = 0 then digits
  else
    let padded := List.replicate (places + 1 - digits.length) '0' ++ digits
    padded.take (padded.length - places) ++ '.' :: padded.drop (padded.length - places)

private def digitsOf (n : Nat) : List Char :=
  (toString n).toList

def mantissa : List Char → List Char
  | first :: rest@(_ :: _) => first :: '.' :: rest
  | digits => digits

def scientific (digits : List Char) (exponent : Int) : List Char :=
  mantissa digits ++ 'E' :: (if exponent < 0 then '-' else '+') :: digitsOf exponent.natAbs

private def signChars (negative : Bool) : List Char :=
  if negative then ['-'] else []

private def payloadChars (payload : Nat) : List Char :=
  if payload = 0 then [] else digitsOf payload

def specialChars : Decimal → List Char
  | .finite _ _ _ => []
  | .infinite negative => signChars negative ++ "Infinity".toList
  | .nan negative signaling payload =>
    signChars negative ++ (if signaling then "sNaN" else "NaN").toList ++ payloadChars payload

/-- The text that keeps coefficient and exponent apart: plain when the exponent is not positive and
at most five zeros follow the point, scientific otherwise. -/
def toText : Decimal → String
  | .finite negative coefficient exponent =>
    let digits := digitsOf coefficient
    let first := exponent + digits.length - 1
    String.ofList <| signChars negative ++
      if exponent ≤ 0 ∧ -6 ≤ first then pointed digits exponent.natAbs
      else scientific digits first
  | x => String.ofList x.specialChars

def toPlain : Decimal → String
  | .finite negative coefficient exponent =>
    let digits := digitsOf coefficient
    String.ofList <| signChars negative ++
      if 0 ≤ exponent then digits ++ List.replicate exponent.toNat '0'
      else pointed digits exponent.natAbs
  | x => String.ofList x.specialChars

def takeDigits : List Char → List Nat × List Char
  | [] => ([], [])
  | c :: cs =>
    match decimalDigit? c with
    | some digit =>
      let (digits, rest) := takeDigits cs
      (digit :: digits, rest)
    | none => ([], c :: cs)

def takeSign : List Char → Bool × List Char
  | '-' :: cs => (true, cs)
  | '+' :: cs => (false, cs)
  | cs => (false, cs)

/-- Digits with an optional point, of which at least one digit, and what follows them: the
coefficient, the number of digits after the point, and the rest. -/
def takeMantissa? (cs : List Char) : Option (Nat × Nat × List Char) :=
  let (whole, rest) := takeDigits cs
  let (fraction, rest) := match rest with
    | '.' :: rest => takeDigits rest
    | rest => ([], rest)
  if whole.isEmpty && fraction.isEmpty then none
  else some (valueOfDigits (whole ++ fraction), fraction.length, rest)

/-- The number that a numeric text denotes, exactly and whatever its length: optional whitespace,
an optional sign, and digits of any script with an optional point. -/
def ofNumericText? (cs : List Char) : Option Decimal :=
  let (negative, body) := takeSign (trim cs)
  match takeMantissa? body with
  | some (coefficient, places, []) => some (.finite negative coefficient (-(places : Int)))
  | _ => none

def maxNumeralExponent : Int := 999999999999999999

def minNumeralExponent : Int := -1999999999999999997

def takeExponent? : List Char → Option Int
  | [] => some 0
  | c :: cs =>
    if c == 'e' || c == 'E' then
      let (negative, body) := takeSign cs
      match takeDigits body with
      | (digits@(_ :: _), []) => some (signed negative (valueOfDigits digits))
      | _ => none
    else none

/-- The number that a numeral denotes: a mantissa with an optional exponent, or one of the names of
the infinities and of the NaNs in any case. -/
def ofNumeral? (cs : List Char) : Option Decimal :=
  let (negative, body) := takeSign ((trim cs).filter (· != '_'))
  match takeMantissa? body with
  | some (coefficient, places, rest) => do
    let exponent ← takeExponent? rest
    let exponent := exponent - places
    if maxNumeralExponent < adjusted coefficient exponent ∨ exponent < minNumeralExponent then none
    else some (.finite negative coefficient exponent)
  | none =>
    let word := String.ofList (body.map Char.toLower)
    if word == "inf" || word == "infinity" then some (.infinite negative)
    else
      let (signaling, body) := match body with
        | c :: cs => if c == 's' || c == 'S' then (true, cs) else (false, c :: cs)
        | [] => (false, [])
      if (body.take 3).map Char.toLower == ['n', 'a', 'n'] then
        match takeDigits (body.drop 3) with
        | (payload, []) => some (.nan negative signaling (valueOfDigits payload))
        | _ => none
      else none

end FormulaGrid.Decimal
