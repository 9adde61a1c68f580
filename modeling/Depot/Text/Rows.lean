import Depot.Text.Ascii
import Depot.Text.Pieces

/-!
# Tables on code points

A table is a list of rows, each on a code point or on a range of them, and each row is written as
a word: `AD` speaks of one code point, `300-36F` of a range, `100-12E/2` of every second one of a
range. After `>` stands what the row says, one number or several with commas between them. All
numbers are hexadecimal.
-/

namespace Depot.Text

/-- What a table says of the code points from the first to the last, every `step` of them. -/
structure Row where
  first : Nat
  last : Nat
  step : Nat
  said : List Nat
  deriving DecidableEq, Repr

namespace Row

/-- The row that a word writes. -/
def ofWord (word : List Char) : Row :=
  let (place, said) := cut '>' word
  let (range, step) := cut '/' place
  let (first, last) := cut '-' range
  { first := numeral 16 first
    last := numeral 16 (last.getD first)
    step := numeral 16 (step.getD ['1'])
    said := match said with
      | none => []
      | some numbers => (split ',' numbers).map (numeral 16) }

/-- The rows of a table whose words are written with a space between them, line by line. -/
def table (lines : List String) : List Row :=
  lines.flatMap fun line => (split ' ' line.toList).map ofWord

/-- Whether a row speaks of a character. -/
def isOn (r : Row) (c : Char) : Bool :=
  r.first ≤ c.toNat && c.toNat ≤ r.last && (c.toNat - r.first) % r.step == 0

/-- The first row of a table that speaks of a character. -/
def find? (rows : List Row) (c : Char) : Option Row :=
  rows.find? (·.isOn c)

/-- Whether a table speaks of a character. -/
def holds (rows : List Row) (c : Char) : Bool :=
  rows.any (·.isOn c)

end Row

end Depot.Text
