import FormulaGrid.Data.Display

/-! What the log tells: one event per evaluated cell, and one for each loading and each
recalculation of a sheet. An event names the cell or the sheet it is about in its context. -/
namespace FormulaGrid

inductive Level where
  | info
  | warning
  | error
  deriving DecidableEq, Repr

namespace Level

def name : Level → String
  | .info => "info"
  | .warning => "warning"
  | .error => "error"

def all : List Level := [.info, .warning, .error]

def ofName? (name : String) : Option Level :=
  all.find? (·.name == name)

def refusal (given : Data) : String :=
  given.quote ++ " is not a valid EventLevel"

end Level

inductive EventType where
  | cellUpdated
  | cellError
  | cycleDetected
  | sheetLoaded
  | sheetRecalculated
  deriving DecidableEq, Repr

namespace EventType

def name : EventType → String
  | .cellUpdated => "cell_updated"
  | .cellError => "cell_error"
  | .cycleDetected => "cycle_detected"
  | .sheetLoaded => "sheet_loaded"
  | .sheetRecalculated => "sheet_recalculated"

def all : List EventType :=
  [.cellUpdated, .cellError, .cycleDetected, .sheetLoaded, .sheetRecalculated]

def ofName? (name : String) : Option EventType :=
  all.find? (·.name == name)

def refusal (given : Data) : String :=
  given.quote ++ " is not a valid EventType"

def subject : EventType → String
  | .cellUpdated | .cellError | .cycleDetected => "cell"
  | .sheetLoaded | .sheetRecalculated => "sheet"

end EventType

/-- One occurrence: how bad, what, and about what. -/
structure Event where
  level : Level
  type : EventType
  context : Data.Entries
  message : String
  errorCode : Option String

namespace Event

/-- The event as it is logged: one that does not say what it is about is marked so, and is no more
than a warning. -/
def attributed (event : Event) : Event :=
  if (Data.lookup event.type.subject event.context).isSome then event
  else {
    event with
    level := .warning
    context := Data.put "_missing_attribution" (.list [.text event.type.subject]) event.context }

/-- The context of an event about a cell. Further entries go last, and replace those they share a
key with. -/
def cellContext (cell : Data) (sheet expression : Option Data) (extra : Data.Entries) :
    Data.Entries :=
  let given (key : String) (value : Option Data) := (value.map fun data => (key, data)).toList
  Data.merge (("cell", cell) :: given "sheet" sheet ++ given "expression" expression) extra

end Event
end FormulaGrid
