/-! Lines of a text. A line ends at a line feed, a carriage return with or without one, a vertical
tab, a form feed, one of the information separators, or a Unicode line or paragraph end. -/
namespace FormulaGrid.Text

def isLineEnd (c : Char) : Bool :=
  let n := c.toNat
  (0x0A ≤ n && n ≤ 0x0D) || (0x1C ≤ n && n ≤ 0x1E) || n == 0x85 || n == 0x2028 || n == 0x2029

/-- What follows the line end at the head of the text; a carriage return takes its line feed
along. -/
def afterLineEnd : List Char → List Char
  | '\r' :: '\n' :: rest => rest
  | _ :: rest => rest
  | [] => []

theorem length_afterLineEnd_le (cs : List Char) : (afterLineEnd cs).length ≤ cs.length - 1 := by
  unfold afterLineEnd
  split <;> simp

def lines : List Char → List (List Char)
  | [] => []
  | c :: cs =>
    (c :: cs).takeWhile (!isLineEnd ·) ::
      lines (afterLineEnd ((c :: cs).dropWhile (!isLineEnd ·)))
termination_by cs => cs.length
decreasing_by
  have after := length_afterLineEnd_le ((c :: cs).dropWhile (!isLineEnd ·))
  have dropped := (List.dropWhile_sublist (l := c :: cs) (!isLineEnd ·)).length_le
  simp only [List.length_cons] at *
  omega

end FormulaGrid.Text
