import FormulaGrid.Decimal.Text

/-! Structured data, as documents and log records hold it. A mapping keeps its entries in the order
in which their keys first came; a fractional number is kept as the text of its numeral. Dates, sets,
bytes and keys that are no text, which some documents could hold, are left out. -/
namespace FormulaGrid

inductive Data where
  | null
  | boolean (value : Bool)
  | integer (value : Int)
  | float (numeral : String)
  | text (value : String)
  | list (items : List Data)
  | mapping (entries : List (String × Data))
  deriving Inhabited

namespace Data

abbrev Entries := List (String × Data)

def lookup (key : String) (entries : Entries) : Option Data :=
  (entries.find? (·.1 == key)).map (·.2)

/-- Puts a value under a key: in place of the one that was there, or at the end. -/
def put (key : String) (value : Data) : Entries → Entries
  | [] => [(key, value)]
  | entry :: entries =>
    if entry.1 == key then (key, value) :: entries else entry :: put key value entries

def merge (entries additions : Entries) : Entries :=
  additions.foldl (fun merged (key, value) => put key value merged) entries

def isZeroNumeral (numeral : String) : Bool :=
  match Decimal.ofNumeral? numeral.toList with
  | some (.finite _ 0 _) => true
  | _ => false

/-- Whether data counts as present: neither null nor false, zero or empty. -/
def isTruthy : Data → Bool
  | .null => false
  | .boolean value => value
  | .integer value => value != 0
  | .float numeral => !isZeroNumeral numeral
  | .text value => value != ""
  | .list items => !items.isEmpty
  | .mapping entries => !entries.isEmpty

mutual
def height : Data → Nat
  | .list items => heightOfItems items + 1
  | .mapping entries => heightOfEntries entries + 1
  | _ => 1

def heightOfItems : List Data → Nat
  | [] => 0
  | item :: items => max (height item) (heightOfItems items)

def heightOfEntries : List (String × Data) → Nat
  | [] => 0
  | (_, value) :: entries => max (height value) (heightOfEntries entries)
end

def asText? : Option Data → Option String
  | some (.text value) => some value
  | _ => none

@[simp] theorem lookup_put (key : String) (value : Data) (entries : Entries) :
    lookup key (put key value entries) = some value := by
  induction entries with
  | nil => simp [put, lookup]
  | cons entry entries ih =>
    by_cases same : entry.1 == key
    · simp [put, lookup, same]
    · simp only [lookup] at ih
      simp [put, lookup, same, ih]

end Data
end FormulaGrid
