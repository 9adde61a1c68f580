import Depot.Value

/-!
# Values written as JSON

`pretty` writes a value over several lines, indented by two spaces for each level.
-/

namespace Depot.Value.Json

/-- A character inside of a JSON string. -/
def escaped (c : Char) : List Char :=
  if c = '"' ∨ c = '\\' then ['\\', c]
  else if c = '\x08' then ['\\', 'b']
  else if c = '\x0c' then ['\\', 'f']
  else if c = '\n' then ['\\', 'n']
  else if c = '\r' then ['\\', 'r']
  else if c = '\t' then ['\\', 't']
  else if c.toNat < 0x20 then
    let digits := Nat.toDigits 16 c.toNat
    ['\\', 'u'] ++ List.replicate (4 - digits.length) '0' ++ digits
  else [c]

/-- A JSON string. -/
def quoted (s : String) : String :=
  String.ofList ('"' :: s.toList.flatMap escaped ++ ['"'])

/-- Items on lines of their own between two brackets. -/
def block (opening closing : String) (indent : Nat) (items : List String) : String :=
  if items.isEmpty then opening ++ closing
  else
    let margin := fun n => "\n" ++ String.ofList (List.replicate n ' ')
    opening ++ margin (indent + 2) ++ (("," ++ margin (indent + 2)).intercalate items) ++
      margin indent ++ closing

mutual

/-- A value, on lines that start at the column `indent`. -/
def pretty (indent : Nat) : Value → String
  | .null => "null"
  | .bool b => if b then "true" else "false"
  | .int n => toString n
  | .real digits => digits
  | .text s => quoted s
  | .date s => quoted s
  | .list items => block "[" "]" indent (prettyItems (indent + 2) items)
  | .table fields => block "\x7b" "\x7d" indent (prettyFields (indent + 2) fields)

/-- The elements of a list, each as it is written at the column `indent`. -/
def prettyItems (indent : Nat) : List Value → List String
  | [] => []
  | v :: vs => pretty indent v :: prettyItems indent vs

/-- The fields of a table, each as it is written at the column `indent`. -/
def prettyFields (indent : Nat) : List (String × Value) → List String
  | [] => []
  | (name, v) :: fields => (quoted name ++ ": " ++ pretty indent v) :: prettyFields indent fields

end

end Depot.Value.Json
