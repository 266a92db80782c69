/-! Paths of files and directories: names separated by slashes, of which empty names and single dots
count for nothing. -/
namespace FormulaGrid

structure Path where
  root : String
  names : List String
  deriving DecidableEq, Repr

namespace Path

def split (cs : List Char) : List (List Char) :=
  match cs with
  | [] => [[]]
  | '/' :: cs => [] :: split cs
  | c :: cs =>
    match split cs with
    | [] => [[c]]
    | name :: names => (c :: name) :: names

/-- The path that a text spells. Two leading slashes differ from one, and from three or more. -/
def ofText (text : String) : Path :=
  let slashes := (text.toList.takeWhile (· == '/')).length
  let names := ((split text.toList).map String.ofList).filter fun name => name != "" && name != "."
  ⟨if slashes = 0 then "" else if slashes = 2 then "//" else "/", names⟩

def toText (path : Path) : String :=
  if path.root = "" ∧ path.names = [] then "."
  else path.root ++ String.intercalate "/" path.names

def name (path : Path) : String :=
  path.names.getLast?.getD ""

/-- The last name without its extension: without the last dot and what follows it, if something
comes before and after that dot. -/
def stem (path : Path) : String :=
  let reversed := path.name.toList.reverse
  let extension := reversed.takeWhile (· != '.')
  match reversed.dropWhile (· != '.') with
  | _ :: rest@(_ :: _) =>
    if extension.isEmpty then path.name else String.ofList rest.reverse
  | _ => path.name

def parent (path : Path) : Path :=
  { path with names := path.names.dropLast }

def child (path : Path) (name : String) : Path :=
  { path with names := path.names ++ [name] }

/-- The path without steps back to the directory above, as far as a name before them can be taken
back. -/
def resolved (path : Path) : Path :=
  { path with
    names := path.names.foldl (fun names name =>
      if name = ".." ∧ names ≠ [] ∧ names.getLast? ≠ some ".." then names.dropLast
      else names ++ [name]) [] }

/-- Whether a text spells a path that can only be a directory: it ends in a slash, or in a dot after
one. -/
def demandsDirectory (text : String) : Bool :=
  match text.toList.reverse with
  | '/' :: _ => true
  | '.' :: '/' :: _ => true
  | _ => false

end Path
end FormulaGrid
