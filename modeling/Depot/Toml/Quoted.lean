import Depot.Toml.Reader

/-!
# Texts and keys

A text stands between quotes: double ones, where a backslash escapes, or single ones, where
everything is as it is written. Three quotes on either side let a text run over several lines.
-/

namespace Depot.Toml

namespace Quoted

open Reader

/-- A character that stands for itself between double quotes. -/
def isPlain (c : Char) : Bool :=
  isContent c && c != '"' && c != '\\'

/-- A character that stands for itself between single quotes. -/
def isLiteral (c : Char) : Bool :=
  isContent c && c != '\x27'

/-- The character of a number with so many hexadecimal digits. -/
def scalar (n : Nat) : Reader Char := do
  let code := Text.numeral 16 (← counted n fun c => (Text.hexValue? c).isSome)
  if code.isValidChar then return Char.ofNat code else failure

/-- A character written with a backslash. -/
def escape : Reader Char := do
  mark '\\'
  match ← one fun _ => true with
  | 'b' => return '\x08'
  | 't' => return '\t'
  | 'n' => return '\n'
  | 'f' => return '\x0c'
  | 'r' => return '\r'
  | '"' => return '"'
  | '\\' => return '\\'
  | 'u' => scalar 4
  | 'U' => scalar 8
  | _ => failure

/-- A text on one line between double quotes. -/
def basic : Reader (List Char) :=
  mark '"' *> many (one isPlain <|> escape) <* mark '"'

/-- A text on one line between single quotes. -/
def literal : Reader (List Char) :=
  mark '\x27' *> span isLiteral <* mark '\x27'

/-! ## Texts over several lines -/

/-- An end of a line, which is the same however it is written. -/
def lineBreak : Reader (List Char) :=
  newline *> pure ['\n']

/-- A backslash at the end of a line, which takes the end and the blanks before and after it
away. -/
def fold : Reader (List Char) :=
  mark '\\' *> blanks *> newline *> many (newline <|> mark ' ' <|> mark '\t') *> pure []

/-- One quote or two, which end nothing. -/
def fewQuotes (quote : Char) : Reader (List Char) :=
  fun cs =>
    let (found, rest) := cs.span (· == quote)
    if found.length = 1 ∨ found.length = 2 then some (found, rest) else none

/-- The quotes at the end, of which those before the last three belong to the text, two at the
most. -/
def closing (quote : Char) : Reader (List Char) :=
  fun cs =>
    let n := (cs.takeWhile (· == quote)).length
    let extra := min (n - 3) 2
    if 3 ≤ n then some (List.replicate extra quote, cs.drop (extra + 3)) else none

/-- A text of parts between three quotes on either side. An end of a line right after the first
ones does not count. -/
def long (quote : Char) (part : Reader (List Char)) : Reader (List Char) := do
  exactly [quote, quote, quote]
  let _ ← optional newline
  let parts ← many (part <|> fewQuotes quote)
  return parts.flatten ++ (← closing quote)

/-- A text between three double quotes. -/
def longBasic : Reader (List Char) :=
  long '"' (List.singleton <$> one isPlain <|> lineBreak <|> fold <|> List.singleton <$> escape)

/-- A text between three single quotes. -/
def longLiteral : Reader (List Char) :=
  long '\x27' (List.singleton <$> one isLiteral <|> lineBreak)

/-- A text in any of the four ways. -/
def text : Reader String :=
  String.ofList <$> (longBasic <|> longLiteral <|> basic <|> literal)

end Quoted

/-! ## Keys -/

/-- The way to a place: tables to go through, and a name in the last one. -/
structure Key where
  path : List String
  name : String
  deriving DecidableEq, Repr

namespace Key

open Reader

/-- A key has fewer parts than this. -/
def partLimit : Nat := 80

def isBare (c : Char) : Bool :=
  Text.isAsciiAlphanumeric c || c == '_' || c == '-'

/-- A part of a key: bare, or a text on one line. -/
def part : Reader String :=
  String.ofList <$>
    (Quoted.basic <|> Quoted.literal <|> List.cons <$> one isBare <*> span isBare)

/-- A key, its parts with dots between them and blanks around each. -/
def read : Reader Key := do
  let padded := blanks *> part <* blanks
  let first ← padded
  let others ← many (mark '.' *> padded)
  let parts := first :: others
  if parts.length < partLimit then
    return ⟨parts.dropLast, parts.getLast (List.cons_ne_nil _ _)⟩
  else failure

end Key

end Depot.Toml
