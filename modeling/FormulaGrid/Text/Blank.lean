/-! Whitespace, and the trimming of text at both ends. The class holds the Unicode separators and
the control characters that separate fields and lines. -/
namespace FormulaGrid.Text

/-- Whitespace: spaces and line breaks of every script, and the controls that separate fields. -/
def isBlank (c : Char) : Bool :=
  let n := c.toNat
  (0x09 ≤ n && n ≤ 0x0D) || (0x1C ≤ n && n ≤ 0x20) || n == 0x85 || n == 0xA0 || n == 0x1680 ||
    (0x2000 ≤ n && n ≤ 0x200A) || n == 0x2028 || n == 0x2029 || n == 0x202F || n == 0x205F ||
    n == 0x3000

def dropBlank (cs : List Char) : List Char :=
  cs.dropWhile isBlank

def trimWhere (p : Char → Bool) (cs : List Char) : List Char :=
  ((cs.dropWhile p).reverse.dropWhile p).reverse

def trim (cs : List Char) : List Char :=
  trimWhere isBlank cs

end FormulaGrid.Text
