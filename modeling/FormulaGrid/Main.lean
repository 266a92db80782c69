import FormulaGrid.Command.Run
import FormulaGrid.Log.Stamp
import Std.Time.DateTime.Timestamp

/-! The command line: reads the files that the arguments name, runs the command on them, writes what
it adds, and prints what it reports. -/
namespace FormulaGrid

/-- What an open handle reads; one that cannot be read is that of a directory. -/
def readHandle (handle : IO.FS.Handle) : IO Node := do
  try
    return .file (← handle.readBinToEnd).toList
  catch _ => return .directory

def readNode (path : Path) : IO (Option Node) := do
  try
    return some (← readHandle (← IO.FS.Handle.mk path.toText .read))
  catch _ => return none

def readDisk (paths : List Path) : IO Disk := do
  let nodes ← paths.filterMapM fun path => do
    return (← readNode path).map fun node => (path.resolved, node)
  return ⟨nodes⟩

/-- Makes a directory, or appends bytes to a file while no one else writes to it. -/
def writeNode (path : Path) : Node → IO Unit
  | .directory => IO.FS.createDirAll path.toText
  | .file bytes => do
    IO.FS.createDirAll path.parent.toText
    let handle ← IO.FS.Handle.mk path.toText .append
    handle.lock
    handle.write ⟨bytes.toArray⟩
    handle.flush
    handle.unlock

def currentStamp : IO String := do
  let since := (← Std.Time.Timestamp.now).toDurationSinceUnixEpoch
  return Log.stamp since.second.toInt.toNat since.nano.toInt.toNat

end FormulaGrid

open FormulaGrid in
def main (arguments : List String) : IO UInt32 := do
  let before ← readDisk (Command.pathsOf arguments)
  let (report, after) := Command.runArguments (← currentStamp) before arguments
  for (path, node) in before.additions after do
    try writeNode path node
    catch error => IO.eprintln s!"logging failed: {error}"
  IO.print report.output
  IO.eprint report.errors
  match report.ending with
  | .broken cause => IO.eprintln cause.message
  | _ => pure ()
  return report.ending.status.toUInt32
