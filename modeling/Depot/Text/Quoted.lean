import Depot.Text.Unseen

/-!
# Characters and texts between quotes

For messages and reports, a character or a text is shown between quotes, with what cannot be seen
there written as an escape.
-/

namespace Depot.Text.Quoted

/-- A code point in braces, in lower-case hexadecimal. -/
def codePoint (c : Char) : List Char :=
  ['\\', 'u', '\x7b'] ++ Nat.toDigits 16 c.toNat ++ ['\x7d']

/-- A character as it is shown between the marks `quote`. -/
def shown (quote c : Char) : List Char :=
  if c = '\x00' then ['\\', '0']
  else if c = '\t' then ['\\', 't']
  else if c = '\r' then ['\\', 'r']
  else if c = '\n' then ['\\', 'n']
  else if c = '\\' ∨ c = quote then ['\\', c]
  else if isUnseen c then codePoint c
  else [c]

/-- A character between apostrophes. -/
def character (c : Char) : String :=
  String.ofList ('\x27' :: shown '\x27' c ++ ['\x27'])

/-- A text between double quotes. -/
def text (s : String) : String :=
  String.ofList ('"' :: s.toList.flatMap (shown '"') ++ ['"'])

end Depot.Text.Quoted
