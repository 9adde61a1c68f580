import Depot.Text.Ascii

/-!
# Readers

A reader takes something from the front of a text and leaves the rest, or refuses the text. Where
a first reader refuses, `<|>` tries a second one from the same place.

The second half of the module reads what stands between the parts of a document: blanks, comments
and the ends of lines.
-/

namespace Depot.Toml

/-- Something that is read from the front of a text. -/
abbrev Reader := StateT (List Char) Option

namespace Reader

variable {α : Type}

/-- One character of a kind. -/
def one (ok : Char → Bool) : Reader Char
  | c :: cs => if ok c then some (c, cs) else none
  | [] => none

/-- Just these characters. -/
def exactly (expected : List Char) : Reader Unit :=
  fun cs => (expected.isPrefixOf? cs).map ((), ·)

/-- Just this character. -/
def mark (c : Char) : Reader Unit :=
  exactly [c]

/-- All characters of a kind from the front on, perhaps none. -/
def span (ok : Char → Bool) : Reader (List Char) :=
  fun cs => some (cs.span ok)

/-- So many characters of a kind. -/
def counted (n : Nat) (ok : Char → Bool) : Reader (List Char) :=
  fun cs =>
    let found := cs.take n
    if found.length = n ∧ found.all ok then some (found, cs.drop n) else none

/-- The end of the text. -/
def finish : Reader Unit
  | [] => some ((), [])
  | _ => none

/-- What a reader finds one after the other, until it refuses or finds nothing more. -/
def manyFrom (item : Reader α) (cs : List Char) : List α × List Char :=
  match item cs with
  | none => ([], cs)
  | some (a, rest) =>
    if rest.length < cs.length then
      let (items, rest) := manyFrom item rest
      (a :: items, rest)
    else ([], cs)
termination_by cs.length

/-- What a reader finds one after the other, perhaps nothing. -/
def many (item : Reader α) : Reader (List α) :=
  fun cs => some (manyFrom item cs)

/-- The characters that a reader takes. -/
def written (item : Reader α) : Reader (List Char) :=
  fun cs => (item cs).map fun (_, rest) => (cs.take (cs.length - rest.length), rest)

/-! ## Between the parts -/

/-- A character that may stand in comments and between quotes: a tab or no control character. -/
def isContent (c : Char) : Bool :=
  c == '\t' || (0x20 ≤ c.toNat && c.toNat != 0x7F)

def isBlank (c : Char) : Bool :=
  c == ' ' || c == '\t'

/-- Spaces and tabs. -/
def blanks : Reader Unit :=
  (fun _ => ()) <$> span isBlank

/-- The end of a line, written in one of two ways. -/
def newline : Reader Unit :=
  mark '\n' <|> exactly ['\r', '\n']

/-- A comment up to the end of its line. -/
def comment : Reader Unit :=
  mark '#' <* span isContent

/-- What may follow the last thing of a line. -/
def tail : Reader Unit :=
  blanks <* optional comment

/-- The rest of a line that holds nothing more. -/
def lineEnd : Reader Unit :=
  tail *> (newline <|> finish)

/-- Blanks, comments and ends of lines. -/
def gap : Reader Unit :=
  (fun _ => ()) <$> many (tail *> newline) <* blanks

end Reader

end Depot.Toml
