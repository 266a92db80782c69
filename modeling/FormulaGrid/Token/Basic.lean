/-! Tokens of formulas: numbers, cell references, function names, operators and brackets, each with
its text and the offset of its first character. One token marks the end of the formula. -/
namespace FormulaGrid

inductive TokenKind where
  | number
  | cellReference
  | plus
  | minus
  | multiply
  | divide
  | leftParen
  | rightParen
  | comma
  | function
  | equal
  | less
  | greater
  | not
  | endOfInput
  deriving DecidableEq, Repr

def TokenKind.name : TokenKind → String
  | .number => "Number"
  | .cellReference => "CellReference"
  | .plus => "Plus"
  | .minus => "Minus"
  | .multiply => "Multiply"
  | .divide => "Divide"
  | .leftParen => "LeftParen"
  | .rightParen => "RightParen"
  | .comma => "Comma"
  | .function => "Function"
  | .equal => "Equal"
  | .less => "Less"
  | .greater => "Greater"
  | .not => "Not"
  | .endOfInput => "End"

/-- A lexeme with its kind and offset. -/
structure Token where
  kind : TokenKind
  lexeme : String
  position : Nat
  deriving DecidableEq, Repr

namespace Token

def finish (length : Nat) : Token :=
  ⟨.endOfInput, "", length⟩

def spelled (token : Token) : String :=
  s!"{token.kind.name}: {token.lexeme} at {token.position}"

def describe (token : Token) : String :=
  if token.kind = .endOfInput then "end of input" else s!"'{token.lexeme}'"

end Token
end FormulaGrid
