import FormulaGrid.Log.Event
import FormulaGrid.Text.Numeral

/-! The arguments of the command line. The first one names a command; each command takes one plain
argument, and options that stand anywhere. An option starts with a hyphen; it has its value after
an equals sign or in the next argument, or is a switch without a value. Two hyphens alone end the
options. Of an option that is given twice the last value counts. -/
namespace FormulaGrid

inductive Command where
  | version
  | evaluate (expression : String) (sheet origin : Option String) (asJson : Bool)
  | check (expression : String) (asJson : Bool)
  | tokens (expression : String) (asJson : Bool)
  | references (expression : String)
  | sheet (file : String) (asJson : Bool) (logDirectory : Option String)
  | events (directory : String) (level eventType cell : Option String) (limit : Int)
  deriving DecidableEq, Repr

namespace Command

abbrev Options := List (String × Bool)

/-- The arguments of a command: the plain ones in order, and the options with their values, last
first; a switch has the empty value. -/
structure Arguments where
  plain : List String
  options : List (String × String)

def isOption (argument : String) : Bool :=
  match argument.toList with
  | '-' :: _ :: _ => true
  | _ => false

def splitOption (argument : String) : String × Option String :=
  let name := argument.toList.takeWhile (· != '=')
  match argument.toList.dropWhile (· != '=') with
  | _ :: value => (String.ofList name, some (String.ofList value))
  | [] => (String.ofList name, none)

def Arguments.addPlain (arguments : Arguments) (argument : String) : Arguments :=
  { arguments with plain := arguments.plain ++ [argument] }

def Arguments.addOption (arguments : Arguments) (name value : String) : Arguments :=
  { arguments with options := (name, value) :: arguments.options }

/-- Takes arguments apart after others. There is no result if an option is unknown, has a value it
must not have, or lacks one. -/
def collect (known : Options) (arguments : Arguments) : List String → Option Arguments
  | [] => some arguments
  | argument :: rest =>
    if argument = "--" then some { arguments with plain := arguments.plain ++ rest }
    else if isOption argument then
      let (name, given) := splitOption argument
      match known.lookup name, given, rest with
      | some false, none, rest => collect known (arguments.addOption name "") rest
      | some true, some value, rest => collect known (arguments.addOption name value) rest
      | some true, none, value :: rest => collect known (arguments.addOption name value) rest
      | _, _, _ => none
    else collect known (arguments.addPlain argument) rest

def Arguments.value? (arguments : Arguments) (name : String) : Option String :=
  arguments.options.lookup name

def Arguments.has (arguments : Arguments) (name : String) : Bool :=
  (arguments.value? name).isSome

def Arguments.only? (arguments : Arguments) : Option String :=
  match arguments.plain with
  | [argument] => some argument
  | _ => none

def defaultLimit : Int := 100

def limitOf? : Option String → Option Int
  | none => some defaultLimit
  | some text => (Text.readInteger text.toList).toOption

def isLevel : Option String → Bool
  | none => true
  | some name => (Level.ofName? name).isSome

def ofName? (name : String) (rest : List String) : Option Command :=
  let arguments? (known : Options) := collect known ⟨[], []⟩ rest
  match name with
  | "eval" => do
    let arguments ← arguments? [("--sheet", true), ("--cell", true), ("--json", false)]
    return .evaluate (← arguments.only?) (arguments.value? "--sheet") (arguments.value? "--cell")
      (arguments.has "--json")
  | "check" => do
    let arguments ← arguments? [("--json", false)]
    return .check (← arguments.only?) (arguments.has "--json")
  | "tokens" => do
    let arguments ← arguments? [("--json", false)]
    return .tokens (← arguments.only?) (arguments.has "--json")
  | "refs" => do
    let arguments ← arguments? []
    return .references (← arguments.only?)
  | "sheet" => do
    let arguments ← arguments? [("--json", false), ("--log-dir", true)]
    return .sheet (← arguments.only?) (arguments.has "--json") (arguments.value? "--log-dir")
  | "events" => do
    let arguments ← arguments?
      [("--level", true), ("--type", true), ("--cell", true), ("--limit", true)]
    let level := arguments.value? "--level"
    if !isLevel level then none
    return .events (← arguments.only?) level (arguments.value? "--type")
      (arguments.value? "--cell") (← limitOf? (arguments.value? "--limit"))
  | _ => none

def version? : List String → Option Command
  | [] => some .version
  | argument :: rest =>
    if argument = "--version" then version? rest
    else if argument = "--" then some .version
    else if isOption argument then none
    else some .version

def ofArguments? : List String → Option Command
  | "--version" :: rest => version? rest
  | "--" :: name :: rest => ofName? name rest
  | name :: rest => ofName? name rest
  | [] => none

end Command
end FormulaGrid
