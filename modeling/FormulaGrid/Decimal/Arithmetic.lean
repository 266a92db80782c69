import FormulaGrid.Decimal.Rounding

/-! Arithmetic and order of decimal numbers. Each operation computes the exact result and rounds it
once. Exact results take the exponent nearest to the natural one of the operation: the lesser of the
two for sums, their sum for products and their difference for quotients. -/
namespace FormulaGrid.Decimal

/-- The result that a NaN among the operands forces: the first one, or no result for a signaling
one. -/
def nanResult? : Decimal → Decimal → Option (Except Signal Decimal)
  | .nan _ true _, _ => some (.error .invalidOperation)
  | _, .nan _ true _ => some (.error .invalidOperation)
  | .nan negative _ payload, _ => some (.ok (quiet negative payload))
  | _, .nan negative _ payload => some (.ok (quiet negative payload))
  | _, _ => none

def coefficientAt (least : Int) (coefficient : Nat) (exponent : Int) : Nat :=
  if coefficient = 0 then 0 else coefficient * Nat.pow 10 (exponent - least).toNat

/-- An exponent below every digit that decides how a sum with the given greater summand is rounded:
below the last digit of that summand, and two places below the last one of a rounded sum. -/
def decisiveExponent (coefficient : Nat) (exponent : Int) : Int :=
  exponent + min (-1) ((digitCount coefficient : Int) - precision - 2)

/-- A summand beside a greater one, in coefficient and exponent. Where all of its digits lie below
the decisive ones it only matters whether it is zero, and one digit at the decisive exponent says
as much. -/
def beside (coefficient₁ : Nat) (exponent₁ : Int) (coefficient₂ : Nat) (exponent₂ : Int) :
    Nat × Int :=
  let least := decisiveExponent coefficient₁ exponent₁
  if coefficient₁ ≠ 0 ∧ adjusted coefficient₂ exponent₂ < least then
    (if coefficient₂ = 0 then 0 else 1, least)
  else (coefficient₂, exponent₂)

/-- The sum of two finite numbers, the first of which has the greater exponent. An exact zero is
negative only as the sum of two negative numbers. -/
def addAligned (negative₁ : Bool) (coefficient₁ : Nat) (exponent₁ : Int) (negative₂ : Bool)
    (coefficient₂ : Nat) (exponent₂ : Int) : Except Signal Decimal :=
  let (coefficient₂, least) := beside coefficient₁ exponent₁ coefficient₂ exponent₂
  let sum := signed negative₁ (coefficientAt least coefficient₁ exponent₁) +
    signed negative₂ coefficient₂
  round (if sum = 0 then negative₁ && negative₂ else sum < 0) sum.natAbs least

def addFinite (negative₁ : Bool) (coefficient₁ : Nat) (exponent₁ : Int) (negative₂ : Bool)
    (coefficient₂ : Nat) (exponent₂ : Int) : Except Signal Decimal :=
  if exponent₂ ≤ exponent₁ then
    addAligned negative₁ coefficient₁ exponent₁ negative₂ coefficient₂ exponent₂
  else addAligned negative₂ coefficient₂ exponent₂ negative₁ coefficient₁ exponent₁

def addNumbers : Decimal → Decimal → Except Signal Decimal
  | .infinite negative₁, .infinite negative₂ =>
    if negative₁ = negative₂ then .ok (.infinite negative₁) else .error .invalidOperation
  | .infinite negative, _ => .ok (.infinite negative)
  | _, .infinite negative => .ok (.infinite negative)
  | .finite negative₁ coefficient₁ exponent₁, .finite negative₂ coefficient₂ exponent₂ =>
    addFinite negative₁ coefficient₁ exponent₁ negative₂ coefficient₂ exponent₂
  | x, _ => .ok x

def add (x y : Decimal) : Except Signal Decimal :=
  (nanResult? x y).getD (addNumbers x y)

def sub (x y : Decimal) : Except Signal Decimal :=
  (nanResult? x y).getD (addNumbers x y.negate)

def mul (x y : Decimal) : Except Signal Decimal :=
  (nanResult? x y).getD <| match x, y with
    | .finite negative₁ coefficient₁ exponent₁, .finite negative₂ coefficient₂ exponent₂ =>
      round (negative₁ != negative₂) (coefficient₁ * coefficient₂) (exponent₁ + exponent₂)
    | .infinite negative₁, .finite negative₂ coefficient _ =>
      if coefficient = 0 then .error .invalidOperation else .ok (.infinite (negative₁ != negative₂))
    | .finite negative₁ coefficient _, .infinite negative₂ =>
      if coefficient = 0 then .error .invalidOperation else .ok (.infinite (negative₁ != negative₂))
    | .infinite negative₁, .infinite negative₂ => .ok (.infinite (negative₁ != negative₂))
    | x, _ => .ok x

/-- The quotient of a number and a nonzero one, both finite. The dividend is scaled so far that the
integer quotient has more digits than a result; a remainder then counts as one more digit, which
decides every tie the right way. -/
def divFinite (negative : Bool) (coefficient₁ : Nat) (exponent₁ : Int) (coefficient₂ : Nat)
    (exponent₂ : Int) : Except Signal Decimal :=
  let scale := digitCount coefficient₂ + precision + 1 - digitCount coefficient₁
  let scaled := coefficient₁ * Nat.pow 10 scale
  let quotient := scaled / coefficient₂
  if coefficient₁ = 0 then round negative 0 (exponent₁ - exponent₂)
  else if scaled % coefficient₂ = 0 then
    let (quotient, exponent) := stripZeros scale quotient (exponent₁ - exponent₂ - scale)
    round negative quotient exponent
  else
    round negative (10 * quotient + 1) (exponent₁ - exponent₂ - scale - 1)

def div (x y : Decimal) : Except Signal Decimal :=
  (nanResult? x y).getD <| match x, y with
    | .finite negative₁ coefficient₁ exponent₁, .finite negative₂ coefficient₂ exponent₂ =>
      if coefficient₂ = 0 then
        .error (if coefficient₁ = 0 then .invalidOperation else .divisionByZero)
      else divFinite (negative₁ != negative₂) coefficient₁ exponent₁ coefficient₂ exponent₂
    | .infinite negative₁, .finite negative₂ _ _ => .ok (.infinite (negative₁ != negative₂))
    | .finite negative₁ _ _, .infinite negative₂ =>
      .ok (.finite (negative₁ != negative₂) 0 leastExponent)
    | .infinite _, .infinite _ => .error .invalidOperation
    | x, _ => .ok x

/-- The order of two finite magnitudes, by their exact values. Numbers whose first digits have
different exponents need no alignment. -/
def compareMagnitude (coefficient₁ : Nat) (exponent₁ : Int) (coefficient₂ : Nat)
    (exponent₂ : Int) : Ordering :=
  if coefficient₁ = 0 ∨ coefficient₂ = 0 then compare coefficient₁ coefficient₂
  else
    let least := min exponent₁ exponent₂
    (compare (adjusted coefficient₁ exponent₁) (adjusted coefficient₂ exponent₂)).then
      (compare (coefficientAt least coefficient₁ exponent₁)
        (coefficientAt least coefficient₂ exponent₂))

def compareFinite (negative₁ : Bool) (coefficient₁ : Nat) (exponent₁ : Int) (negative₂ : Bool)
    (coefficient₂ : Nat) (exponent₂ : Int) : Ordering :=
  if coefficient₁ = 0 ∧ coefficient₂ = 0 then .eq
  else match negative₁, negative₂ with
    | false, false => compareMagnitude coefficient₁ exponent₁ coefficient₂ exponent₂
    | true, true => compareMagnitude coefficient₂ exponent₂ coefficient₁ exponent₁
    | true, false => .lt
    | false, true => .gt

def order? : Decimal → Decimal → Option Ordering
  | .finite negative₁ coefficient₁ exponent₁, .finite negative₂ coefficient₂ exponent₂ =>
    some (compareFinite negative₁ coefficient₁ exponent₁ negative₂ coefficient₂ exponent₂)
  | .infinite negative₁, .infinite negative₂ =>
    some (if negative₁ = negative₂ then .eq else if negative₁ then .lt else .gt)
  | .infinite negative, .finite _ _ _ => some (if negative then .lt else .gt)
  | .finite _ _ _, .infinite negative => some (if negative then .gt else .lt)
  | _, _ => none

def isSignaling : Decimal → Bool
  | .nan _ signaling _ => signaling
  | _ => false

/-- Whether two numbers are equal. A NaN equals nothing, and a signaling one may not be asked. -/
def equal (x y : Decimal) : Except Signal Bool :=
  if x.isSignaling || y.isSignaling then .error .invalidOperation
  else .ok (order? x y == some .eq)

def less (x y : Decimal) : Except Signal Bool :=
  match order? x y with
  | some order => .ok (order == .lt)
  | none => .error .invalidOperation

def greater (x y : Decimal) : Except Signal Bool :=
  match order? x y with
  | some order => .ok (order == .gt)
  | none => .error .invalidOperation

/-- The rounded number without zeros at the end of its coefficient; every zero becomes `0`. -/
def normalize : Decimal → Except Signal Decimal
  | .finite negative coefficient exponent => do
    match ← round negative coefficient exponent with
    | .finite negative 0 _ => return .finite negative 0 0
    | .finite negative coefficient exponent =>
      let (coefficient, exponent) :=
        stripZeros (min (maxExponent - exponent).toNat (digitCount coefficient)) coefficient
          exponent
      return .finite negative coefficient exponent
    | x => return x
  | .nan _ true _ => .error .invalidOperation
  | .nan negative false payload => .ok (quiet negative payload)
  | .infinite negative => .ok (.infinite negative)

end FormulaGrid.Decimal
