import FormulaGrid.Data.Basic
import FormulaGrid.Text.Hex

/-! JSON text. All characters outside printable ASCII are written as escapes of UTF-16 units. A log
line has its keys in order and one space after commas and colons; the indented form has one entry
on each line and keeps the order of the keys. -/
namespace FormulaGrid.Json

open FormulaGrid.Text

def unitEscape (unit : Nat) : List Char :=
  '\\' :: 'u' :: hex 4 unit

def stringChar (c : Char) : List Char :=
  if c == '"' || c == '\\' then ['\\', c]
  else if c == '\n' then ['\\', 'n']
  else if c == '\r' then ['\\', 'r']
  else if c == '\t' then ['\\', 't']
  else if c == '\x08' then ['\\', 'b']
  else if c == '\x0c' then ['\\', 'f']
  else if 0x20 ≤ c.toNat ∧ c.toNat ≤ 0x7E then [c]
  else if c.toNat < 0x10000 then unitEscape c.toNat
  else
    let offset := c.toNat - 0x10000
    unitEscape (0xD800 + offset / 0x400) ++ unitEscape (0xDC00 + offset % 0x400)

def stringChars (s : String) : List Char :=
  '"' :: s.toList.flatMap stringChar ++ ['"']

/-- A numeral in JSON, which has names of its own for NaN and the infinities. -/
def numeralChars (numeral : String) : List Char :=
  if numeral = "nan" then "NaN".toList
  else if numeral = "inf" then "Infinity".toList
  else if numeral = "-inf" then "-Infinity".toList
  else numeral.toList

def leafChars : Data → List Char
  | .null => "null".toList
  | .boolean true => "true".toList
  | .boolean false => "false".toList
  | .integer value => (toString value).toList
  | .float numeral => numeralChars numeral
  | .text value => stringChars value
  | .list _ => []
  | .mapping _ => []

mutual
def chars : Data → List Char
  | .list items => '[' :: itemChars items ++ [']']
  | .mapping entries => '\x7b' :: entryChars entries ++ ['\x7d']
  | leaf => leafChars leaf

def itemChars : List Data → List Char
  | [] => []
  | [item] => chars item
  | item :: items => chars item ++ ',' :: ' ' :: itemChars items

def entryChars : List (String × Data) → List Char
  | [] => []
  | [(key, value)] => stringChars key ++ ':' :: ' ' :: chars value
  | (key, value) :: entries =>
    stringChars key ++ ':' :: ' ' :: chars value ++ ',' :: ' ' :: entryChars entries
end

def sortEntries (entries : Data.Entries) : Data.Entries :=
  entries.mergeSort fun left right => decide (left.1 ≤ right.1)

mutual
def sortKeys : Data → Data
  | .list items => .list (sortItems items)
  | .mapping entries => .mapping (sortEntries (sortValues entries))
  | leaf => leaf

def sortItems : List Data → List Data
  | [] => []
  | item :: items => sortKeys item :: sortItems items

def sortValues : List (String × Data) → List (String × Data)
  | [] => []
  | (key, value) :: entries => (key, sortKeys value) :: sortValues entries
end

def line (data : Data) : String :=
  String.ofList (chars (sortKeys data))

def newLine (depth : Nat) : List Char :=
  '\n' :: List.replicate (2 * depth) ' '

mutual
def indentedChars (depth : Nat) : Data → List Char
  | .list (item :: items) =>
    '[' :: indentedItems (depth + 1) (item :: items) ++ newLine depth ++ [']']
  | .mapping (entry :: entries) =>
    '\x7b' :: indentedEntries (depth + 1) (entry :: entries) ++ newLine depth ++ ['\x7d']
  | .list [] => ['[', ']']
  | .mapping [] => ['\x7b', '\x7d']
  | leaf => leafChars leaf

def indentedItems (depth : Nat) : List Data → List Char
  | [] => []
  | [item] => newLine depth ++ indentedChars depth item
  | item :: items =>
    newLine depth ++ indentedChars depth item ++ ',' :: indentedItems depth items

def indentedEntries (depth : Nat) : List (String × Data) → List Char
  | [] => []
  | [(key, value)] =>
    newLine depth ++ stringChars key ++ ':' :: ' ' :: indentedChars depth value
  | (key, value) :: entries =>
    newLine depth ++ stringChars key ++ ':' :: ' ' :: indentedChars depth value ++
      ',' :: indentedEntries depth entries
end

def indented (data : Data) : String :=
  String.ofList (indentedChars 0 data)

end FormulaGrid.Json
