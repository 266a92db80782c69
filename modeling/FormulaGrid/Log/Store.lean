import FormulaGrid.Json.Read
import FormulaGrid.Log.Entry
import FormulaGrid.Text.Lines
import FormulaGrid.Text.Utf8

/-! The log of a directory. Entries are appended; reading looks at no more than a number of bytes at
the end, drops the line that is cut there, and skips what is no JSON. -/
namespace FormulaGrid.Log

open FormulaGrid.Data FormulaGrid.Text

/-- The bytes of a log, in the pieces they were appended in, last first. -/
structure Store where
  pieces : List (List UInt8)

/-- Why a log is not read: a record has no entries where a filter asks for some, or JSON that the
reader refuses rather than skips. -/
inductive ReadError where
  | noEntries
  | numeralTooLong (digits : Nat)
  | nestedTooDeeply
  deriving DecidableEq, Repr

/-- Which records are asked for. An absent or empty text asks for nothing. -/
structure Filter where
  level : Option String
  eventType : Option String
  cell : Option String

namespace Store

def empty : Store :=
  ⟨[]⟩

def bytes (store : Store) : List UInt8 :=
  store.pieces.reverse.flatten

def append (store : Store) (bytes : List UInt8) : Store :=
  ⟨bytes :: store.pieces⟩

def write (store : Store) (entry : Entry) : Except WriteError Store :=
  return store.append (encodeUtf8 (← entry.line))

@[simp] theorem bytes_append (store : Store) (bytes : List UInt8) :
    (store.append bytes).bytes = store.bytes ++ bytes := by
  simp [append, Store.bytes]

end Store

def afterFirstLine (bytes : List UInt8) : List UInt8 :=
  (bytes.dropWhile (· != 10)).drop 1

/-- The bytes that reading looks at: all, or those after the first line end among the last
`tailBytes`. -/
def tail (tailBytes : Int) (bytes : List UInt8) : List UInt8 :=
  if (bytes.length : Int) ≤ tailBytes then bytes
  else afterFirstLine (bytes.drop (bytes.length - tailBytes.toNat))

def recordOf? (line : List Char) : Except ReadError (Option Data) :=
  if (trim line).isEmpty then .ok none
  else
    match Json.read line with
    | .ok data => .ok (some data)
    | .error .malformed => .ok none
    | .error (.numeralTooLong digits) => .error (.numeralTooLong digits)
    | .error .nestedTooDeeply => .error .nestedTooDeeply

def records (tailBytes : Int) (bytes : List UInt8) : Except ReadError (List Data) :=
  return (← (lines (decodeUtf8 (tail tailBytes bytes))).mapM recordOf?).filterMap id

def field? (record : Data) (key : String) : Except ReadError (Option Data) :=
  match record with
  | .mapping entries => .ok (lookup key entries)
  | _ => .error .noEntries

def isText (wanted : String) : Option Data → Bool
  | some (.text value) => value == wanted
  | _ => false

def matchesField (key : String) (wanted : Option String) (record : Data) :
    Except ReadError Bool :=
  match wanted.filter (· != "") with
  | none => .ok true
  | some wanted => return isText wanted (← field? record key)

def matchesCell (wanted : Option String) (record : Data) : Except ReadError Bool :=
  match wanted.filter (· != "") with
  | none => .ok true
  | some wanted => do
    let context := (← field? record "context").getD (.mapping [])
    return isText wanted (← field? context "cell")

/-- Whether a record is asked for. The level is looked at first, then the type, then the cell. -/
def Filter.accepts (filter : Filter) (record : Data) : Except ReadError Bool := do
  if !(← matchesField "level" filter.level record) then return false
  if !(← matchesField "event_type" filter.eventType record) then return false
  matchesCell filter.cell record

def select (filter : Filter) : Nat → List Data → Except ReadError (List Data)
  | 0, _ => .ok []
  | _, [] => .ok []
  | count + 1, record :: records => do
    if ← filter.accepts record then return record :: (← select filter count records)
    else select filter (count + 1) records

def maxRecords : Nat := 2000

def defaultRecords : Nat := 200

def Store.read (store : Store) (tailBytes : Int) (filter : Filter) (limit : Int) :
    Except ReadError (List Data) := do
  let count := min limit.toNat maxRecords
  if count = 0 then return []
  select filter count (← records tailBytes store.bytes).reverse

end FormulaGrid.Log
