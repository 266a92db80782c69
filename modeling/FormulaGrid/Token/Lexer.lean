import FormulaGrid.Fault
import FormulaGrid.Text.Letter

/-! From text to tokens. Digits, capitals with digits after them, and lower-case words are each read
as far as they go; whitespace separates tokens and is skipped. Only ASCII letters and digits form
tokens. -/
namespace FormulaGrid.Token

open FormulaGrid.Text

def operatorKind? : Char → Option TokenKind
  | '+' => some .plus
  | '-' => some .minus
  | '*' => some .multiply
  | '/' => some .divide
  | '(' => some .leftParen
  | ')' => some .rightParen
  | ',' => some .comma
  | '=' => some .equal
  | '<' => some .less
  | '>' => some .greater
  | _ => none

def wordKind? (word : String) : Option TokenKind :=
  if word = "not" then some .not
  else if (Function.ofName? word).isSome then some .function
  else none

/-- The first token of a text that starts with `c`, which is no whitespace, at offset
`position`. -/
def first (c : Char) (cs : List Char) (position : Nat) : Except FormulaError Token :=
  if isAsciiDigit c then
    .ok ⟨.number, String.ofList (c :: cs.takeWhile isAsciiDigit), position⟩
  else if isAsciiUpper c then
    let letters := c :: cs.takeWhile isAsciiUpper
    let digits := (cs.dropWhile isAsciiUpper).takeWhile isAsciiDigit
    if digits.isEmpty then
      .error ((Cause.malformedReference (String.ofList letters) position).at position)
    else .ok ⟨.cellReference, String.ofList (letters ++ digits), position⟩
  else if isAsciiLower c then
    let word := String.ofList (c :: cs.takeWhile isAsciiLower)
    match wordKind? word with
    | some kind => .ok ⟨kind, word, position⟩
    | none => .error ((Cause.unknownKeyword word position).at position)
  else
    match operatorKind? c with
    | some kind => .ok ⟨kind, String.singleton c, position⟩
    | none => .error ((Cause.unknownCharacter c position).at position)

def afterFirst (c : Char) (cs : List Char) : List Char :=
  if isAsciiDigit c then cs.dropWhile isAsciiDigit
  else if isAsciiUpper c then (cs.dropWhile isAsciiUpper).dropWhile isAsciiDigit
  else if isAsciiLower c then cs.dropWhile isAsciiLower
  else cs

theorem length_afterFirst_le (c : Char) (cs : List Char) :
    (afterFirst c cs).length ≤ cs.length := by
  unfold afterFirst
  have dropped (p : Char → Bool) (cs : List Char) : (cs.dropWhile p).length ≤ cs.length :=
    (List.dropWhile_sublist _).length_le
  split
  · exact dropped _ _
  split
  · exact Nat.le_trans (dropped _ _) (dropped _ _)
  split
  · exact dropped _ _
  · exact Nat.le_refl _

def scan (position : Nat) : List Char → Except FormulaError (List Token)
  | [] => .ok [finish position]
  | c :: cs =>
    if isBlank c then scan (position + 1) cs
    else do
      let token ← first c cs position
      let tokens ← scan (position + token.lexeme.length) (afterFirst c cs)
      return token :: tokens
termination_by cs => cs.length
decreasing_by
  · simp
  · have := length_afterFirst_le c cs
    simp only [List.length_cons]
    omega

def tokenize (text : String) (offset : Nat) : Except FormulaError (List Token) :=
  scan (min offset text.length) (text.toList.drop offset)

/-- The offset of a formula's body: what follows whitespace, one optional equals sign and the
whitespace after it. -/
def bodyStart (text : String) : Nat :=
  let rest := dropBlank text.toList
  let rest := match rest with
    | '=' :: body => dropBlank body
    | rest => rest
  text.length - rest.length

end FormulaGrid.Token
