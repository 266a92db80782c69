/-! Text as UTF-8 bytes. Reading never fails: an ill-formed byte, and the longest beginning of a
character that the next byte cannot continue, are each read as one replacement character. -/
namespace FormulaGrid.Text

def replacement : Char := '\uFFFD'

/-- Where the reader stands inside a character: how many bytes it still owes, the least and the
greatest value of the next one, and the bits read so far. -/
structure Partial where
  owed : Nat
  low : Nat
  high : Nat
  bits : Nat

/-- Reads the first byte of a character: what is complete already, and what is still owed. -/
def leadByte (byte : Nat) : List Char × Option Partial :=
  if byte < 0x80 then ([Char.ofNat byte], none)
  else if byte < 0xC2 then ([replacement], none)
  else if byte < 0xE0 then ([], some ⟨1, 0x80, 0xBF, byte - 0xC0⟩)
  else if byte = 0xE0 then ([], some ⟨2, 0xA0, 0xBF, 0⟩)
  else if byte = 0xED then ([], some ⟨2, 0x80, 0x9F, 0xD⟩)
  else if byte < 0xF0 then ([], some ⟨2, 0x80, 0xBF, byte - 0xE0⟩)
  else if byte = 0xF0 then ([], some ⟨3, 0x90, 0xBF, 0⟩)
  else if byte < 0xF4 then ([], some ⟨3, 0x80, 0xBF, byte - 0xF0⟩)
  else if byte = 0xF4 then ([], some ⟨3, 0x80, 0x8F, 4⟩)
  else ([replacement], none)

def nextByte (begun : Partial) (byte : Nat) : List Char × Option Partial :=
  if begun.low ≤ byte ∧ byte ≤ begun.high then
    let bits := 64 * begun.bits + (byte - 0x80)
    if begun.owed ≤ 1 then ([Char.ofNat bits], none)
    else ([], some ⟨begun.owed - 1, 0x80, 0xBF, bits⟩)
  else
    let (read, begun) := leadByte byte
    (replacement :: read, begun)

def decodeFrom : Option Partial → List UInt8 → List Char
  | none, [] => []
  | some _, [] => [replacement]
  | begun, byte :: bytes =>
    let (read, begun) := match begun with
      | none => leadByte byte.toNat
      | some begun => nextByte begun byte.toNat
    read ++ decodeFrom begun bytes

def decodeUtf8 (bytes : List UInt8) : List Char :=
  decodeFrom none bytes

def encodeUtf8 (s : String) : List UInt8 :=
  s.toUTF8.toList

end FormulaGrid.Text
