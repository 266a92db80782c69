import FormulaGrid.Json.Read
import FormulaGrid.Log.Sink
import FormulaGrid.Text.Utf8

/-! The files and directories that a command works on. A directory is there when it was made or when
something stands in it. Documents are JSON; a blank one holds no value. -/
namespace FormulaGrid

open FormulaGrid.Text

inductive Node where
  | directory
  | file (bytes : List UInt8)

structure Disk where
  nodes : List (Path × Node)

/-- Why a directory cannot be made: a file stands in its place, or in the place of a directory
above it. -/
inductive Obstacle where
  | inPlace
  | above
  deriving DecidableEq, Repr

def readDocument? (bytes : List UInt8) : Option Data :=
  let cs := decodeUtf8 bytes
  if (trim cs).isEmpty then some .null else (Json.read cs).toOption

namespace Disk

def isBelow (path above : Path) : Bool :=
  path.root == above.root && path.names != above.names && above.names.isPrefixOf path.names

def at? (disk : Disk) (path : Path) : Option Node :=
  let path := path.resolved
  match disk.nodes.find? (·.1 == path) with
  | some (_, node) => some node
  | none =>
    if path.names.isEmpty || disk.nodes.any (fun (other, _) => isBelow other path) then
      some .directory
    else none

def named? (disk : Disk) (text : String) : Option Node :=
  if text = "" then none
  else
    match disk.at? (.ofText text) with
    | some (.file bytes) => if Path.demandsDirectory text then none else some (.file bytes)
    | found => found

def isFile (disk : Disk) (text : String) : Bool :=
  match disk.named? text with
  | some (.file _) => true
  | _ => false

def isDirectory (disk : Disk) (text : String) : Bool :=
  match disk.named? text with
  | some .directory => true
  | _ => false

def bytes? (disk : Disk) (path : Path) : Option (List UInt8) :=
  match disk.at? path with
  | some (.file bytes) => some bytes
  | _ => none

def put (disk : Disk) (path : Path) (node : Node) : Disk :=
  let path := path.resolved
  ⟨(path, node) :: disk.nodes.filter (·.1 != path)⟩

def makeDirectory (disk : Disk) (path : Path) : Except Obstacle Disk :=
  let path := path.resolved
  let above := (List.range path.names.length).map fun count =>
    { path with names := path.names.take count }
  match disk.bytes? path with
  | some _ => .error .inPlace
  | none =>
    if above.any fun directory => (disk.bytes? directory).isSome then .error .above
    else .ok (disk.put path .directory)

def logFolder (directory : Path) : Path :=
  directory.child "logs"

def logFile (directory : Path) : Path :=
  (logFolder directory).child "events.ndjson"

def folder (disk : Disk) (directory : Path) : Log.Folder :=
  match disk.at? (logFolder directory) with
  | none => .missing
  | some (.file _) => .blocked
  | some .directory =>
    match disk.at? (logFile directory) with
    | none => .present .empty
    | some .directory => .blocked
    | some (.file bytes) => .present (Log.Store.empty.append bytes)

def putFolder (disk : Disk) (directory : Path) : Log.Folder → Disk
  | .present store => disk.put (logFile directory) (.file store.bytes)
  | _ => disk

def config (disk : Disk) (directory : Path) : Except ConfigError Config :=
  let path := directory.child Config.fileName
  match disk.bytes? path with
  | none => Config.ofFile directory none
  | some bytes =>
    match readDocument? bytes with
    | none => .error (.unreadable path.toText)
    | some content => Config.ofFile directory (some content)

/-- What one disk holds beyond another one: directories that were made, and the bytes that were
appended to files. -/
def additions (before after : Disk) : List (Path × Node) :=
  after.nodes.reverse.filterMap fun (path, node) =>
    match node with
    | .directory => if (before.at? path).isSome then none else some (path, .directory)
    | .file bytes =>
      let known := ((before.bytes? path).getD []).length
      if bytes.length ≤ known then none else some (path, .file (bytes.drop known))

end Disk
end FormulaGrid
