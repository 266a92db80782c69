import FormulaGrid.Disk
import FormulaGrid.Sheet.Load
import FormulaGrid.Text.Upper

/-! What commands report: lines for two streams, and how they end. Results are shown as plain lines
or as indented JSON. -/
namespace FormulaGrid.Command

open FormulaGrid.Text

/-- A fault that a command does not report as a message. -/
inductive Breakdown where
  | obstacle (obstacle : Obstacle)
  | setting (error : Data.WholeError)
  | sheet (error : SheetError)
  | log (error : Log.ReadError)
  | display (signal : Decimal.Signal)
  deriving DecidableEq, Repr

def Breakdown.message : Breakdown → String
  | .obstacle .inPlace => "a file stands in the place of the directory"
  | .obstacle .above => "a file stands in the place of a directory above"
  | .setting error => error.message
  | .sheet error => error.message
  | .log .noEntries => "a record has no entries"
  | .log (.numeralTooLong digits) => tooLongMessage digits
  | .log .nestedTooDeeply => "a record is nested too deeply"
  | .display signal => signal.name

/-- How a command ends: well, with its failure told, with arguments that ask for nothing, or broken
off. -/
inductive Ending where
  | done
  | failed
  | misused
  | broken (cause : Breakdown)
  deriving DecidableEq, Repr

def Ending.status : Ending → Nat
  | .done => 0
  | .failed => 1
  | .misused => 2
  | .broken _ => 1

structure Report where
  output : String
  errors : String
  ending : Ending
  deriving DecidableEq, Repr

namespace Report

def printed (lines : List String) : Report :=
  ⟨String.join (lines.map (· ++ "\n")), "", .done⟩

def failure (message : String) : Report :=
  ⟨"", s!"Error: {message}\n", .failed⟩

def broken (cause : Breakdown) : Report :=
  ⟨"", "", .broken cause⟩

def misuse : Report :=
  ⟨"", "Usage: gridcalc (eval | check | tokens | refs | sheet | events) ARGUMENT [OPTIONS]\n",
    .misused⟩

def after (lines : List String) (report : Report) : Report :=
  { report with output := String.join (lines.map (· ++ "\n")) ++ report.output }

end Report

def padRight (width : Nat) (s : String) : String :=
  s ++ String.ofList (List.replicate (width - s.length) ' ')

def padLeft (width : Nat) (s : String) : String :=
  String.ofList (List.replicate (width - s.length) ' ') ++ s

def valueData (value : Value) : Except Decimal.Signal Data :=
  return .mapping [("type", .text value.kindName), ("display", .text (← value.display))]

def outcomeData : Outcome → Except Decimal.Signal Data
  | .ok value =>
    return .mapping [("success", .boolean true), ("value", ← valueData value),
      ("error_message", .null), ("error_position", .integer 0), ("error_code", .null)]
  | .error fault =>
    return .mapping [("success", .boolean false), ("value", .null),
      ("error_message", .text fault.message), ("error_position", .integer fault.position),
      ("error_code", .text fault.code)]

def shown (text : Except Decimal.Signal Report) : Report :=
  match text with
  | .ok report => report
  | .error signal => .broken (.display signal)

def reportOutcome (outcome : Outcome) (asJson : Bool) : Report :=
  if asJson then
    shown do
      let report := Report.printed [Json.indented (← outcomeData outcome)]
      return match outcome with
        | .ok _ => report
        | .error _ => { report with ending := .failed }
  else
    match outcome with
    | .ok value => shown (return .printed [← value.display])
    | .error fault => .failure s!"{fault.message} (position {fault.position})"

def reportCheck (outcome : Outcome) (asJson : Bool) : Report :=
  match asJson, outcome with
  | false, .ok _ => .printed ["OK"]
  | asJson, outcome => reportOutcome outcome asJson

def tokenData (token : Token) : Data :=
  .mapping [("kind", .text token.kind.name), ("lexeme", .text token.lexeme),
    ("position", .integer token.position)]

def tokenLine (token : Token) : String :=
  padLeft 4 (toString token.position) ++ "  " ++ padRight 14 token.kind.name ++ " " ++ token.lexeme

def reportTokens (expression : String) (asJson : Bool) : Report :=
  match Token.tokenize expression (Token.bodyStart expression) with
  | .error error => .failure error.cause.message
  | .ok found =>
    if asJson then .printed [Json.indented (.list (found.map tokenData))]
    else .printed (found.map tokenLine)

def reportReferences (expression : String) : Report :=
  match Formula.referencesOf expression with
  | .error error => .failure error.cause.message
  | .ok found => .printed found

def cellData (cell : Cell) : Except Decimal.Signal Data :=
  return .mapping [("ref", .text cell.reference), ("expression", .text cell.expression),
    ("value", ← valueData cell.value), ("error", (cell.error.map Data.text).getD .null)]

def sheetData (sheet : Sheet) : Except Decimal.Signal Data :=
  let written := sheet.cells.filter (·.expression != "")
  return .mapping [("name", .text sheet.name), ("rows", .integer sheet.rows),
    ("columns", .integer sheet.columns), ("cells", .list (← written.mapM cellData))]

def cellLine (cell : Cell) : Except Decimal.Signal String :=
  let start := "  " ++ padRight 6 cell.reference ++ " "
  match cell.error with
  | some message => .ok (start ++ "ERROR " ++ message)
  | none => return start ++ (← cell.value.display)

def reportCells : List Cell → Report
  | [] => .printed []
  | cell :: cells =>
    match cellLine cell with
    | .ok line => (reportCells cells).after [line]
    | .error signal => .broken (.display signal)

def reportSheet (sheet : Sheet) (asJson : Bool) : Report :=
  if asJson then shown (return .printed [Json.indented (← sheetData sheet)])
  else
    let title := s!"Sheet: {sheet.name} ({sheet.rows}x{sheet.columns})"
    match sheet.cells.filter (·.expression != "") with
    | [] => .printed [title, "No cells."]
    | written => (reportCells written).after [title]

def fieldText (key : String) (entries : Data.Entries) : String :=
  ((Data.lookup key entries).map Data.display).getD ""

def recordLine (record : Data) : Except Log.ReadError String :=
  match record with
  | .mapping entries =>
    match (Data.lookup "level" entries).getD (.text "") with
    | .text level =>
      let line := "[" ++ fieldText "ts" entries ++ "] " ++ padRight 7 (upper level) ++ " " ++
        fieldText "event_type" entries ++ ": " ++ fieldText "message" entries
      match (Data.lookup "error_code" entries).filter Data.isTruthy with
      | some code => .ok (line ++ "  (" ++ code.display ++ ")")
      | none => .ok line
    | _ => .error .noEntries
  | _ => .error .noEntries

def reportRecords : List Data → Report
  | [] => .printed []
  | record :: records =>
    match recordLine record with
    | .ok line => (reportRecords records).after [line]
    | .error error => .broken (.log error)

def reportEvents (disk : Disk) (directory : String) (filter : Log.Filter) (limit : Int) : Report :=
  match (disk.folder (.ofText directory)).store.read Config.defaultTailBytes filter limit with
  | .error error => .broken (.log error)
  | .ok [] => .printed ["No events found."]
  | .ok records => reportRecords records

end FormulaGrid.Command
