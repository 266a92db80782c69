import FormulaGrid.Function
import FormulaGrid.Token.Basic

/-! What can go wrong with a formula. An error has a cause and, unless it comes from the formula of
a referenced cell, the offset it refers to. A fault is an error, a number that cannot be computed,
or nesting that is too deep; it always has a message, a position and a code. -/
namespace FormulaGrid

inductive Cause where
  | unknownCharacter (char : Char) (offset : Nat)
  | unknownKeyword (word : String) (offset : Nat)
  | malformedReference (letters : String) (offset : Nat)
  | unexpectedToken (found : Token)
  | expectedToken (expected : TokenKind) (found : Token)
  | unknownFunction (name : String)
  | wrongArity (name : String) (arity : Arity)
  | divisionByZero
  | noAccessor
  | cellNotFound (reference : String)
  | cycle (chain : List String)
  | depthExceeded (reference : String) (maxDepth : Nat)
  deriving DecidableEq, Repr

namespace Cause

def message : Cause → String
  | .unknownCharacter char offset => s!"Unknown character '{char}' at position {offset}"
  | .unknownKeyword word offset => s!"Unknown keyword '{word}' at position {offset}"
  | .malformedReference letters offset =>
    s!"Malformed cell reference '{letters}' at position {offset}"
  | .unexpectedToken found => s!"Unexpected token {found.describe} at position {found.position}"
  | .expectedToken expected found =>
    s!"Expected token {expected.name} but found {found.kind.name} at position {found.position}"
  | .unknownFunction name => s!"Unknown function '{name}'"
  | .wrongArity name (.exactly count) => s!"Function {name} takes exactly {count} arguments"
  | .wrongArity name (.atLeast count) =>
    s!"Function {name} requires at least {count} " ++ if count = 1 then "argument" else "arguments"
  | .divisionByZero => "Division by zero"
  | .noAccessor => "No spreadsheet context to resolve cell references"
  | .cellNotFound reference => s!"Cell {reference} not found"
  | .cycle chain => "Cyclic reference: " ++ String.intercalate " -> " chain
  | .depthExceeded reference maxDepth =>
    s!"Reference chain exceeds maximum depth of {maxDepth} at {reference}"

def code : Cause → String
  | .unknownCharacter _ _ => "lex_error"
  | .unknownKeyword _ _ => "lex_error"
  | .malformedReference _ _ => "lex_error"
  | .unexpectedToken _ => "parse_error"
  | .expectedToken _ _ => "parse_error"
  | .unknownFunction _ => "function_error"
  | .wrongArity _ _ => "function_error"
  | .divisionByZero => "division_by_zero"
  | .noAccessor => "ref_error"
  | .cellNotFound _ => "ref_error"
  | .cycle _ => "cyclic_reference"
  | .depthExceeded _ _ => "depth_exceeded"

end Cause

/-- A cause, and the offset in the formula it refers to, if that is known. -/
structure FormulaError where
  cause : Cause
  position : Option Nat
  deriving DecidableEq, Repr

namespace FormulaError

def unexpected (found : Token) : FormulaError :=
  ⟨.unexpectedToken found, some found.position⟩

def expected (kind : TokenKind) (found : Token) : FormulaError :=
  ⟨.expectedToken kind found, some found.position⟩

def elsewhere (error : FormulaError) : FormulaError :=
  { error with position := none }

end FormulaError

def Cause.at (cause : Cause) (position : Nat) : FormulaError :=
  ⟨cause, some position⟩

inductive Fault where
  | formula (error : FormulaError)
  | numeric (signal : Decimal.Signal)
  | nestedTooDeeply
  deriving DecidableEq, Repr

namespace Fault

def message : Fault → String
  | .formula error => error.cause.message
  | .numeric signal => "Numeric overflow: " ++ signal.name
  | .nestedTooDeeply => "Expression nested too deeply"

def position : Fault → Nat
  | .formula error => error.position.getD 0
  | .numeric _ => 0
  | .nestedTooDeeply => 0

def code : Fault → String
  | .formula error => error.cause.code
  | .numeric _ => "numeric_overflow"
  | .nestedTooDeeply => "nesting_too_deep"

def elsewhere : Fault → Fault
  | .formula error => .formula error.elsewhere
  | fault => fault

end Fault

abbrev Outcome := Except Fault Value

def checkArity (name : String) (count : Nat) : Except Cause Function :=
  match Function.ofName? name with
  | none => .error (.unknownFunction name)
  | some function =>
    if function.arity.accepts count then .ok function else .error (.wrongArity name function.arity)

/-- The value of a function call, whose arity errors refer to `position`. No function takes zero
arguments. -/
def callFunction (name : String) (arguments : List Value) (position : Option Nat) : Outcome :=
  match checkArity name arguments.length, arguments with
  | .error cause, _ => .error (.formula ⟨cause, position⟩)
  | .ok function, first :: others => (function.apply first others).mapError .numeric
  | .ok function, [] => .error (.formula ⟨.wrongArity name function.arity, position⟩)

end FormulaGrid
