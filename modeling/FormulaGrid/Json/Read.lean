import FormulaGrid.Data.Basic
import FormulaGrid.Decimal.Double
import FormulaGrid.Reading
import FormulaGrid.Text.Hex
import FormulaGrid.Text.Numeral

/-! Reading JSON text. Of two entries with one key the later value stands. Beside the standard's
numbers the reader knows the names of the infinities and of NaN, and it refuses integers with too
many digits and values nested too deeply. Each step returns what is left of the text together with
the fact that something was read. -/
namespace FormulaGrid.Json

open FormulaGrid.Text

inductive ReadError where
  | malformed
  | numeralTooLong (digits : Nat)
  | nestedTooDeeply
  deriving DecidableEq, Repr

def maxNesting : Nat := 980

def isSpace (c : Char) : Bool :=
  c == ' ' || c == '\t' || c == '\n' || c == '\r'

def skipSpace (cs : List Char) : List Char :=
  cs.dropWhile isSpace

theorem length_skipSpace_le (cs : List Char) : (skipSpace cs).length ≤ cs.length :=
  (List.dropWhile_sublist _).length_le

def unit? (a b c d : Char) : Option Nat := do
  return 4096 * (← hexValue? a) + 256 * (← hexValue? b) + 16 * (← hexValue? c) + (← hexValue? d)

def escaped? (c : Char) : Option Char :=
  match c with
  | '"' => some '"'
  | '\\' => some '\\'
  | '/' => some '/'
  | 'b' => some '\x08'
  | 'f' => some '\x0c'
  | 'n' => some '\n'
  | 'r' => some '\r'
  | 't' => some '\t'
  | _ => none

/-- The character of a unit that stands alone; one half of a pair reads as the replacement
character. -/
def unitChar (unit : Nat) : Char :=
  if 0xD800 ≤ unit ∧ unit ≤ 0xDFFF then '\uFFFD' else Char.ofNat unit

def pairChar? (high low : Nat) : Option Char :=
  if 0xD800 ≤ high ∧ high ≤ 0xDBFF ∧ 0xDC00 ≤ low ∧ low ≤ 0xDFFF then
    some (Char.ofNat (0x10000 + (high - 0xD800) * 0x400 + (low - 0xDC00)))
  else none

def readString (cs : List Char) : Except ReadError (Reading (List Char) Char cs.length) :=
  match cs with
  | [] => .error .malformed
  | '"' :: rest => .ok ⟨[], rest, Nat.lt_succ_self _⟩
  | '\\' :: 'u' :: a :: b :: c :: d :: rest =>
    match unit? a b c d with
    | none => .error .malformed
    | some high =>
      match rest with
      | '\\' :: 'u' :: e :: f :: g :: h :: later =>
        match unit? e f g h with
        | none => .error .malformed
        | some low =>
          match pairChar? high low with
          | some pair =>
            (readString later).map fun read => (read.map (pair :: ·)).within (Nat.le_add_right _ 12)
          | none =>
            (readString ('\\' :: 'u' :: e :: f :: g :: h :: later)).map fun read =>
              (read.map (unitChar high :: ·)).within (Nat.le_add_right _ 6)
      | rest =>
        (readString rest).map fun read =>
          (read.map (unitChar high :: ·)).within (Nat.le_add_right _ 6)
  | '\\' :: c :: rest =>
    match escaped? c with
    | none => .error .malformed
    | some char =>
      (readString rest).map fun read => (read.map (char :: ·)).within (Nat.le_add_right _ 2)
  | c :: rest =>
    if c.toNat < 0x20 then .error .malformed
    else (readString rest).map fun read => (read.map (c :: ·)).within (Nat.le_add_right _ 1)
termination_by cs.length
decreasing_by all_goals simp only [List.length_cons]; omega

def digitRun (cs : List Char) : List Char :=
  cs.takeWhile isAsciiDigit

def fractionLength : List Char → Nat
  | '.' :: cs => if (digitRun cs).isEmpty then 0 else (digitRun cs).length + 1
  | _ => 0

def exponentLength : List Char → Nat
  | c :: cs =>
    if c == 'e' || c == 'E' then
      match cs with
      | sign :: digits =>
        if sign == '+' || sign == '-' then
          if (digitRun digits).isEmpty then 0 else (digitRun digits).length + 2
        else if (digitRun cs).isEmpty then 0
        else (digitRun cs).length + 1
      | [] => 0
    else 0
  | [] => 0

/-- How many characters the integer part at the head of a text has: one for a zero, and otherwise
all its digits. -/
def wholeLength (cs : List Char) : Nat :=
  match cs with
  | '0' :: _ => 1
  | cs => (digitRun cs).length

theorem length_pos_of_wholeLength_pos {cs : List Char} (found : 0 < wholeLength cs) :
    0 < cs.length := by
  cases cs with
  | nil => simp [wholeLength, digitRun] at found
  | cons _ _ => exact Nat.succ_pos _

def digitValues (cs : List Char) : List Nat :=
  cs.map fun c => c.toNat - 48

def floatNumeral (negative : Bool) (cs : List Char) : String :=
  match Decimal.takeMantissa? cs with
  | some (coefficient, places, rest) =>
    Double.numeral negative coefficient ((Decimal.takeExponent? rest).getD 0 - places)
  | none => String.ofList cs

def readNumber (negative : Bool) (cs : List Char) :
    Except ReadError (Reading Data Char cs.length) :=
  let whole := wholeLength cs
  let fraction := fractionLength (cs.drop whole)
  let exponent := exponentLength (cs.drop (whole + fraction))
  let length := whole + fraction + exponent
  if found : 0 < whole then
    have shorter : (cs.drop length).length < cs.length := by
      have := length_pos_of_wholeLength_pos found
      simp only [List.length_drop]
      omega
    if fraction + exponent = 0 then
      if maxNumeralDigits < whole then .error (.numeralTooLong whole)
      else
        let magnitude : Int := valueOfDigits (digitValues (cs.take whole))
        .ok ⟨.integer (if negative then -magnitude else magnitude), cs.drop length, shorter⟩
    else
      .ok ⟨.float (floatNumeral negative (cs.take length)), cs.drop length, shorter⟩
  else .error .malformed

def readLeaf (cs : List Char) : Except ReadError (Reading Data Char cs.length) :=
  match cs with
  | 'n' :: 'u' :: 'l' :: 'l' :: rest =>
    .ok ⟨.null, rest, Nat.lt_add_of_pos_right (Nat.succ_pos 3)⟩
  | 't' :: 'r' :: 'u' :: 'e' :: rest =>
    .ok ⟨.boolean true, rest, Nat.lt_add_of_pos_right (Nat.succ_pos 3)⟩
  | 'f' :: 'a' :: 'l' :: 's' :: 'e' :: rest =>
    .ok ⟨.boolean false, rest, Nat.lt_add_of_pos_right (Nat.succ_pos 4)⟩
  | 'N' :: 'a' :: 'N' :: rest =>
    .ok ⟨.float "nan", rest, Nat.lt_add_of_pos_right (Nat.succ_pos 2)⟩
  | 'I' :: 'n' :: 'f' :: 'i' :: 'n' :: 'i' :: 't' :: 'y' :: rest =>
    .ok ⟨.float "inf", rest, Nat.lt_add_of_pos_right (Nat.succ_pos 7)⟩
  | '-' :: 'I' :: 'n' :: 'f' :: 'i' :: 'n' :: 'i' :: 't' :: 'y' :: rest =>
    .ok ⟨.float "-inf", rest, Nat.lt_add_of_pos_right (Nat.succ_pos 8)⟩
  | '-' :: rest => (readNumber true rest).map fun read => read.within (Nat.le_add_right _ 1)
  | cs => readNumber false cs

mutual
def readValue (depth : Nat) (cs : List Char) : Except ReadError (Reading Data Char cs.length) :=
  match cs with
  | '"' :: rest =>
    (readString rest).map fun read =>
      (read.map fun chars => .text (String.ofList chars)).within (Nat.le_add_right _ 1)
  | '[' :: rest =>
    if maxNesting ≤ depth then .error .nestedTooDeeply
    else
      match h : skipSpace rest with
      | ']' :: after => .ok ⟨.list [], after, by
          have := length_skipSpace_le rest; simp [h] at this; simp; omega⟩
      | _ =>
        (readItems (depth + 1) rest).map fun read => (read.map .list).within (Nat.le_add_right _ 1)
  | '\x7b' :: rest =>
    if maxNesting ≤ depth then .error .nestedTooDeeply
    else
      match h : skipSpace rest with
      | '\x7d' :: after => .ok ⟨.mapping [], after, by
          have := length_skipSpace_le rest; simp [h] at this; simp; omega⟩
      | _ =>
        (readEntries (depth + 1) [] rest).map fun read =>
          (read.map .mapping).within (Nat.le_add_right _ 1)
  | cs => readLeaf cs
termination_by 2 * cs.length

def readItems (depth : Nat) (cs : List Char) :
    Except ReadError (Reading (List Data) Char cs.length) := do
  have skipped := length_skipSpace_le cs
  let ⟨item, rest, _⟩ ← readValue depth (skipSpace cs)
  have skipped₁ := length_skipSpace_le rest
  match h : skipSpace rest with
  | ']' :: after => return ⟨[item], after, by simp [h] at skipped₁; omega⟩
  | ',' :: after =>
    have shorter : after.length < cs.length := by simp [h] at skipped₁; omega
    let read ← readItems depth after
    return (read.map (item :: ·)).within (by omega)
  | _ => .error .malformed
termination_by 2 * cs.length + 1

def readEntries (depth : Nat) (entries : Data.Entries) (cs : List Char) :
    Except ReadError (Reading Data.Entries Char cs.length) := do
  have skipped := length_skipSpace_le cs
  match h₁ : skipSpace cs with
  | '"' :: keyed =>
    let ⟨key, rest, _⟩ ← readString keyed
    have skipped₁ := length_skipSpace_le rest
    match h₂ : skipSpace rest with
    | ':' :: valued =>
      have skipped₂ := length_skipSpace_le valued
      have shorter : (skipSpace valued).length < cs.length := by
        simp [h₁] at skipped; simp [h₂] at skipped₁; omega
      let ⟨value, rest, _⟩ ← readValue depth (skipSpace valued)
      have skipped₃ := length_skipSpace_le rest
      let entries := Data.put (String.ofList key) value entries
      match h₃ : skipSpace rest with
      | '\x7d' :: after => return ⟨entries, after, by simp [h₃] at skipped₃; omega⟩
      | ',' :: after =>
        have shorter₃ : after.length < cs.length := by simp [h₃] at skipped₃; omega
        let read ← readEntries depth entries after
        return read.within (by omega)
      | _ => .error .malformed
    | _ => .error .malformed
  | _ => .error .malformed
termination_by 2 * cs.length + 1
end

def read (cs : List Char) : Except ReadError Data := do
  let ⟨value, rest, _⟩ ← readValue 0 (skipSpace cs)
  if (skipSpace rest).isEmpty then return value else .error .malformed

end FormulaGrid.Json
