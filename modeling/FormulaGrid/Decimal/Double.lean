import FormulaGrid.Decimal.Rounding
import FormulaGrid.Decimal.Text

/-! Magnitudes of double precision, and the shortest numeral of each. On the coarsest decimal grid
that holds a number which rounds to the magnitude, the numeral is the nearest such number. It is
written out for moderate magnitudes and always shows a fraction or an exponent. -/
namespace FormulaGrid

/-- The magnitude `significand * 2 ^ exponent`. -/
structure Double where
  significand : Nat
  exponent : Int
  deriving DecidableEq, Repr

namespace Double

def precision : Nat := 53

def leastExponent : Int := -1074

def greatestExponent : Int := 971

/-- A fraction counted in units of `base ^ exponent`. Fractions are numerator and denominator. -/
def inUnits (base : Nat) (exponent : Int) (fraction : Nat × Nat) : Nat × Nat :=
  if 0 ≤ exponent then (fraction.1, fraction.2 * Nat.pow base exponent.toNat)
  else (fraction.1 * Nat.pow base exponent.natAbs, fraction.2)

/-- The exponent with which a positive fraction has just as many binary digits as a significand, or
the least one. -/
def exponentOf (fraction : Nat × Nat) : Int :=
  let guess : Int := (fraction.1.log2 : Int) - fraction.2.log2 - precision
  let (n, d) := inUnits 2 guess fraction
  max leastExponent (if Nat.pow 2 precision * d ≤ n then guess + 1 else guess)

def nearest? (fraction : Nat × Nat) : Option Double :=
  let exponent := exponentOf fraction
  let (n, d) := inUnits 2 exponent fraction
  let rounded := Decimal.roundHalfEven n d
  let nearest : Double :=
    if rounded = Nat.pow 2 precision then ⟨Nat.pow 2 (precision - 1), exponent + 1⟩
    else ⟨rounded, exponent⟩
  if greatestExponent < nearest.exponent then none else some nearest

/-- The magnitude nearest to `coefficient * 10 ^ exponent`, unless that is too great. Decimal
exponents far outside the range decide on their own. -/
def ofDecimal? (coefficient : Nat) (exponent : Int) : Option Double :=
  let first := Decimal.adjusted coefficient exponent
  if coefficient = 0 ∨ first < -330 then some ⟨0, leastExponent⟩
  else if 330 < first then none
  else nearest? (inUnits 10 (-exponent) (coefficient, 1))

def whole (x : Double) : Nat :=
  let (n, d) := inUnits 2 (-x.exponent) (x.significand, 1)
  n / d

def isWhole (x : Double) : Bool :=
  let (n, d) := inUnits 2 (-x.exponent) (x.significand, 1)
  n % d = 0

def quarters (x : Double) (count : Nat) : Nat × Nat :=
  inUnits 2 (2 - x.exponent) (count, 1)

/-- The least number that rounds to a magnitude, in quarters: halfway to the magnitude below, which
is nearer where the significand is a power of two. -/
def lowQuarters (x : Double) : Nat :=
  4 * x.significand -
    if x.significand = Nat.pow 2 (precision - 1) ∧ leastExponent < x.exponent then 1 else 2

def highQuarters (x : Double) : Nat :=
  4 * x.significand + 2

/-- Whether `count * 10 ^ place` rounds to the magnitude. The two halfway points do so if the
significand is even. -/
def holds (x : Double) (place : Int) (count : Nat) : Bool :=
  let (n, d) := inUnits 10 (-place) (count, 1)
  let (low, unit) := x.quarters x.lowQuarters
  let (high, _) := x.quarters x.highQuarters
  if x.significand % 2 = 0 then low * d ≤ n * unit && n * unit ≤ high * d
  else low * d < n * unit && n * unit < high * d

def onGrid? (x : Double) (place : Int) : Option Nat :=
  let (n, d) := inUnits 10 place (x.quarters (4 * x.significand))
  let below := n / d
  match x.holds place below, x.holds place (below + 1) with
  | true, true => some (Decimal.roundHalfEven n d)
  | true, false => some below
  | false, true => some (below + 1)
  | false, false => none

def shortestFrom (x : Double) : Nat → Int → Nat × Int
  | 0, place => (0, place)
  | count + 1, place =>
    match x.onGrid? place with
    | some multiple => (multiple, place)
    | none => shortestFrom x count (place - 1)

/-- The coefficient and the exponent of the shortest numeral of a positive magnitude. Of the binary
logarithm of the magnitude 643/2136 give its decimal logarithm; twenty places from there on hold
more digits than a significand needs. -/
def shortest (x : Double) : Nat × Int :=
  x.shortestFrom 20 ((x.significand.log2 + x.exponent + 1) * 643 / 2136 + 1)

def plainChars (coefficient : Nat) (place : Int) : List Char :=
  let digits := (toString coefficient).toList
  if 0 ≤ place then Decimal.pointed (digits ++ List.replicate (place.toNat + 1) '0') 1
  else Decimal.pointed digits place.natAbs

def scientificChars (coefficient : Nat) (first : Int) : List Char :=
  let exponent := (toString first.natAbs).toList
  Decimal.mantissa (toString coefficient).toList ++ 'e' :: (if first < 0 then '-' else '+') ::
    (List.replicate (2 - exponent.length) '0' ++ exponent)

/-- The shortest numeral of a magnitude. It is written out if its first digit stands at most sixteen
places before the point and at most four after it. -/
def chars (x : Double) : List Char :=
  if x.significand = 0 then plainChars 0 0
  else
    let (coefficient, place) := x.shortest
    let first := Decimal.adjusted coefficient place
    if -4 ≤ first ∧ first < 16 then plainChars coefficient place
    else scientificChars coefficient first

def numeral (negative : Bool) (coefficient : Nat) (exponent : Int) : String :=
  String.ofList <| (if negative then ['-'] else []) ++
    match ofDecimal? coefficient exponent with
    | some x => x.chars
    | none => "inf".toList

end Double
end FormulaGrid
