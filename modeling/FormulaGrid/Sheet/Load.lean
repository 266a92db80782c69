import FormulaGrid.Data.Display
import FormulaGrid.Path
import FormulaGrid.Sheet.Update

/-! Sheets in documents: a mapping with a name, numbers of rows and columns, and the texts of cells
by their references. Texts are stored first and computed when all are in place. -/
namespace FormulaGrid.Sheet

open FormulaGrid.Data

structure Making where
  result : Except SheetError Sheet
  events : List Event

/-- The entries under `cells`; anything that does not count as present stands for none. -/
def cellEntries (entries : Entries) : Except SheetError Entries :=
  match (lookup "cells" entries).filter isTruthy with
  | none => .ok []
  | some (.mapping cells) => .ok cells
  | some _ => .error .cellsNoMapping

def wholeEntry (key : String) (default : Nat) (entries : Entries) : Except SheetError Int :=
  match lookup key entries with
  | none => .ok default
  | some data => data.toWhole.mapError .invalidNumber

def nameEntry (entries : Entries) : Except SheetError String :=
  match lookup "name" entries with
  | none => .ok defaultName
  | some name => if name.isWritable then .ok name.display else .error .numeralTooLong

def contentText : Data → String
  | .null => ""
  | content => content.display

def store (sheet : Sheet) (reference : String) (content : Data) : Except SheetError Sheet :=
  match sheet.cell? reference with
  | none => .error (.outsideSheet reference sheet.rows sheet.columns)
  | some cell =>
    if content.isWritable then
      .ok (sheet.modifyAt cell.position fun cell =>
        let stored := cell.withText (contentText content)
        if stored.isFormula then stored else stored.literal)
    else .error .numeralTooLong

def ofEntries (entries : Entries) (maxDepth : Int) : Except SheetError Sheet := do
  let cells ← cellEntries entries
  let rows ← wholeEntry "rows" defaultSize entries
  let columns ← wholeEntry "columns" defaultSize entries
  let name ← nameEntry entries
  let sheet ← make name maxDepth rows columns
  cells.foldlM (fun sheet (reference, content) => sheet.store reference content) sheet

def ofData (content : Data) (maxDepth : Int) : Making :=
  match content with
  | .mapping entries =>
    match ofEntries entries maxDepth with
    | .error error => ⟨.error error, []⟩
    | .ok sheet =>
      let change := sheet.recalculate
      ⟨change.result.map fun _ => change.sheet, change.events⟩
  | _ => ⟨.error .contentNoMapping, []⟩

/-- Whether an error in loading is logged: a wrong value is, a value of a wrong kind and an infinite
size are not. -/
def isLogged : SheetError → Bool
  | .contentNoMapping => false
  | .invalidNumber .wrongKind => false
  | .invalidNumber .infinite => false
  | _ => true

def loadedEvent (path : Path) (sheet : Sheet) : Event where
  level := .info
  type := .sheetLoaded
  context := [("sheet", .text sheet.name), ("path", .text path.toText),
    ("rows", .integer sheet.rows), ("columns", .integer sheet.columns)]
  message := "Loaded " ++ path.name
  errorCode := none

def notLoadedEvent (path : Path) (message : String) : Event where
  level := .error
  type := .sheetLoaded
  context := [("sheet", .text path.stem), ("path", .text path.toText)]
  message := "Cannot load " ++ path.name ++ ": " ++ message
  errorCode := some "sheet_invalid"

def Making.logged (making : Making) (path : Path) : Making :=
  match making.result with
  | .ok sheet => { making with events := making.events ++ [loadedEvent path sheet] }
  | .error error =>
    if isLogged error then
      { making with events := making.events ++ [notLoadedEvent path error.message] }
    else making

/-- Makes the sheet of a file with some content. Content that does not count as present is that of
an empty mapping. The outcome is the last event. -/
def load (path : Path) (content : Data) (maxDepth : Int) : Making :=
  let making := match content with
    | .mapping entries => ofData (.mapping entries) maxDepth
    | content =>
      if content.isTruthy then ⟨.error (.fileNoMapping path.toText), []⟩
      else ofData (.mapping []) maxDepth
  making.logged path

def loadFile (path : Path) (content : Option Data) (maxDepth : Int) : Making :=
  match content with
  | some content => load path content maxDepth
  | none => Making.logged ⟨.error (.unreadable path.toText), []⟩ path

end FormulaGrid.Sheet
