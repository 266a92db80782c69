import FormulaGrid.Config
import FormulaGrid.Data.Whole
import FormulaGrid.Log.Store

/-! Where entries go. A directory's log stands in a folder of its own, which is made when the first
entry is written; a file that stands in the folder's place blocks all writing. -/
namespace FormulaGrid.Log

open FormulaGrid.Data

inductive Folder where
  | missing
  | blocked
  | present (store : Store)

namespace Folder

def write (folder : Folder) (entry : Entry) : Except WriteError Folder :=
  match folder with
  | .missing => return .present (← Store.empty.write entry)
  | .blocked => throw .blocked
  | .present store => return .present (← store.write entry)

def store : Folder → Store
  | .missing => .empty
  | .blocked => .empty
  | .present store => store

end Folder

structure Sink where
  flushes : Bool
  tailBytes : Int
  deriving DecidableEq, Repr

namespace Sink

/-- A sink that reads so many bytes; none or zero stands for the default. -/
def make (flushes : Bool) (tailBytes : Option Int) : Sink :=
  let given := tailBytes.getD 0
  ⟨flushes, if given = 0 then Config.defaultTailBytes else given⟩

def ofConfig (config : Config) : Except WholeError Sink := do
  let tailBytes ← ((lookup "logging_tail_bytes" config.entries).getD .null).toWhole
  return make (((lookup "logging_fsync" config.entries).getD .null).isTruthy) (some tailBytes)

end Sink

/-- The folder after an event is logged, if logging is on. An entry that cannot be written is
dropped. -/
def emit (sink : Option Sink) (folder : Folder) (entry : Entry) : Folder :=
  match sink with
  | none => folder
  | some _ => (folder.write entry.attributed).toOption.getD folder

end FormulaGrid.Log
