import Depot.Toml.Number
import Depot.Toml.Tree

/-!
# Documents

A document in the configuration language TOML: assignments, then sections with a header each, one
thing on a line. `Toml.read` reads all of it, or refuses it as a whole.
-/

namespace Depot.Toml

open Reader

/-! ## Values -/

/-- A value that holds no other ones. -/
def scalar : Reader Value :=
  .text <$> Quoted.text <|>
  exactly ['t', 'r', 'u', 'e'] *> pure (.bool true) <|>
  exactly ['f', 'a', 'l', 's', 'e'] *> pure (.bool false) <|>
  Number.read

/-- Values between brackets, with commas and as many lines as one likes; a comma may follow the
last one. -/
def list (item : Reader Value) : Reader Value := do
  mark '['
  let padded := gap *> item <* gap
  let items ← optional padded
  match items with
  | none =>
    gap
    mark ']'
    return .list []
  | some first =>
    let others ← many (mark ',' *> padded)
    let _ ← optional (mark ',')
    gap
    mark ']'
    return .list (first :: others)

/-- A key and its value, on one line as far as the value allows. -/
def assignment (item : Reader Value) : Reader Assignment := do
  let key ← Key.read
  mark '='
  blanks
  return ⟨key, ← item⟩

/-- A table written as a value, on one line; no comma follows the last assignment. -/
def inlineTable (item : Reader Value) : Reader Value := do
  mark '\x7b'
  let padded := assignment item <* blanks
  let assignments ← (List.cons <$> padded <*> many (mark ',' *> padded)) <|> blanks *> pure []
  mark '\x7d'
  let fields ← StateT.lift (Fields.addAll [] assignments)
  return fields.toValue

/-- A value; `depth` is how many levels of values in values there may be. -/
def value : Nat → Reader Value
  | 0 => scalar
  | depth + 1 => scalar <|> list (value depth) <|> inlineTable (value depth)

/-- How many levels of values in values a document may have. -/
def depthLimit : Nat := 79

/-! ## Documents -/

/-- A header on a line. -/
def header : Reader Header :=
  (fun key => ⟨key, true⟩) <$> (exactly ['[', '['] *> Key.read <* exactly [']', ']']) <|>
  (fun key => ⟨key, false⟩) <$> (mark '[' *> Key.read <* mark ']')

/-- What is assigned on the lines from here on, with empty lines and comments between them. -/
def assignments : Reader (List Assignment) :=
  (List.filterMap id) <$> many
    (some <$> (assignment (value depthLimit) <* lineEnd) <|> tail *> newline *> pure none)

/-- A header and what is assigned under it. -/
def sectionOf : Reader Section :=
  Section.mk <$> (blanks *> header <* lineEnd) <*> assignments

/-- The mark that some editors put before a text. -/
def byteOrderMark : Char := '\ufeff'

/-- The table of a whole document. -/
def document : Reader Fields := do
  let _ ← optional (mark byteOrderMark)
  let first ← assignments
  let sections ← many sectionOf
  tail
  finish
  let fields ← StateT.lift (Fields.addAll [] first)
  StateT.lift (sections.foldlM Fields.addSection fields)

/-- Reads a document. -/
def read (text : String) : Option Value :=
  (document.run text.toList).map fun (fields, _) => fields.toValue

end Depot.Toml
