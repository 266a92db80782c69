import FormulaGrid.Chain
import FormulaGrid.Data.Display
import FormulaGrid.Path

/-! The settings of a directory: defaults, with the entries of the directory's file in place of
them. The greatest length of reference chains has to be a positive integer; other settings are
taken as they are. -/
namespace FormulaGrid

open FormulaGrid.Data

structure Config where
  entries : Entries
  maxDepth : Nat
  positive : 0 < maxDepth

inductive ConfigError where
  | unreadable (path : String)
  | noMapping (path : String)
  | invalidDepth (given : Data)

def ConfigError.message : ConfigError → String
  | .unreadable path => path ++ " is no document"
  | .noMapping path => path ++ " must contain a mapping"
  | .invalidDepth given =>
    if given.isWritable then
      "max_resolution_depth must be a positive integer, got " ++ given.quote
    else Text.tooGreatMessage

namespace Config

def fileName : String := "gridcalc.yaml"

def defaultTailBytes : Nat := 2097152

def defaults : Entries := [
  ("max_resolution_depth", .integer Chain.defaultDepth),
  ("logging_fsync", .boolean false),
  ("logging_tail_bytes", .integer defaultTailBytes)]

/-- The entries that a file's content gives; content that does not count as present gives none. -/
def givenEntries (path : Path) (content : Data) : Except ConfigError Entries :=
  match content with
  | .mapping entries => .ok entries
  | content => if content.isTruthy then .error (.noMapping path.toText) else .ok []

def ofFile (directory : Path) (content : Option Data) : Except ConfigError Config := do
  let given ← (content.map (givenEntries (directory.child fileName))).getD (.ok [])
  let entries := merge defaults given
  match (lookup "max_resolution_depth" entries).getD .null with
  | .integer depth =>
    if positive : 0 < depth then return ⟨entries, depth.toNat, Chain.toNat_pos positive⟩
    else throw (.invalidDepth (.integer depth))
  | data => throw (.invalidDepth data)

end Config
end FormulaGrid
