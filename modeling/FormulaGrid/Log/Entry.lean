import FormulaGrid.Json.Write
import FormulaGrid.Log.Event
import FormulaGrid.Log.Version

/-! Entries of the log: an event, when it was logged, and by which version of the format. An entry
is one line of JSON with its keys in order, unless its context nests too deeply or holds an integer
with too many digits. -/
namespace FormulaGrid.Log

open FormulaGrid.Data

inductive WriteError where
  | blocked
  | nestedTooDeeply
  | numeralTooLong
  deriving DecidableEq, Repr

def WriteError.message : WriteError → String
  | .blocked => ""
  | .nestedTooDeeply => "Circular reference detected (depth exceeded)"
  | .numeralTooLong => Text.tooGreatMessage

def maxHeight : Nat := 255

structure Entry where
  schemaVersion : Int
  time : String
  event : Event

namespace Entry

def currentVersion : Int := 1

def ofEvent (now : String) (event : Event) : Entry :=
  ⟨currentVersion, now, event⟩

def attributed (entry : Entry) : Entry :=
  { entry with event := entry.event.attributed }

def toEntries (entry : Entry) : Entries := [
  ("schema_version", .integer entry.schemaVersion),
  ("ts", .text entry.time),
  ("level", .text entry.event.level.name),
  ("event_type", .text entry.event.type.name),
  ("context", .mapping entry.event.context),
  ("message", .text entry.event.message),
  ("error_code", (entry.event.errorCode.map Data.text).getD .null)]

def toData (entry : Entry) : Data :=
  .mapping entry.toEntries

def dump (entry : Entry) : Except WriteError Data :=
  if heightOfEntries entry.event.context ≤ maxHeight then .ok entry.toData
  else .error .nestedTooDeeply

def line (entry : Entry) : Except WriteError String := do
  let data ← entry.dump
  if data.isWritable then return Json.line data ++ "\n" else throw .numeralTooLong

end Entry

/-- The value under a key, which must be in order if there is one. -/
def optional {α : Type} (key : String) (default : α) (read : Data → Option α) (fields : Entries) :
    Except (List String) α :=
  match lookup key fields with
  | none => .ok default
  | some data =>
    match read data with
    | some value => .ok value
    | none => .error [key]

def required {α : Type} (key : String) (read : Data → Option α) (fields : Entries) :
    Except (List String) α :=
  match (lookup key fields).bind read with
  | some value => .ok value
  | none => .error [key]

def both {α β : Type} (first : Except (List String) α) (second : Except (List String) β) :
    Except (List String) (α × β) :=
  match first, second with
  | .ok a, .ok b => .ok (a, b)
  | .ok _, .error keys => .error keys
  | .error keys, .ok _ => .error keys
  | .error keys, .error more => .error (keys ++ more)

def textOf? : Data → Option String
  | .text value => some value
  | _ => none

def optionalTextOf? : Data → Option (Option String)
  | .null => some none
  | .text value => some (some value)
  | _ => none

def entriesOf? : Data → Option Entries
  | .mapping entries => some entries
  | _ => none

/-- The entry with the given fields, logged now unless they say when; other fields do not count. If
some are not in order, their keys come in order. -/
def Entry.ofFields (now : String) (fields : Entries) : Except (List String) Entry :=
  (both (optional "context" [] entriesOf? fields)
    (both (optional "error_code" none optionalTextOf? fields)
      (both (required "event_type" (fun data => textOf? data >>= EventType.ofName?) fields)
        (both (required "level" (fun data => textOf? data >>= Level.ofName?) fields)
          (both (optional "message" "" textOf? fields)
            (both (optional "schema_version" currentVersion versionOf? fields)
              (optional "ts" now textOf? fields))))))).map
    fun (context, errorCode, type, level, message, version, time) =>
      ⟨version, time, level, type, context, message, errorCode⟩

end FormulaGrid.Log
