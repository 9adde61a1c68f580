import Depot.Text.Composed
import Depot.Text.Direction
import Depot.Text.Joining
import Depot.Url.Domain.Folding
import Depot.Url.Domain.Punycode

/-!
# Host names in all scripts

A host name is made of labels with dots between them. `toAscii?` reads a name in letters of any
script and writes it in ASCII, each label with other letters in it behind the mark `xn--`. A label
that comes with the mark has to be what such a label is written as.
-/

namespace Depot.Url.Domain

open Depot.Text

def isAscii (cs : List Char) : Bool :=
  cs.all (·.toNat < 128)

/-- A label of a host name, in letters and in ASCII. -/
structure Label where
  letters : List Char
  ascii : List Char
  deriving DecidableEq, Repr

/-- The most letters of a label that is not in ASCII. -/
def maxLetters : Nat := 1000

/-- The most characters of a label behind the mark. -/
def maxCode : Nat := 2000

/-- Whether letters can be a label: no mark in front and nothing about joining where nothing joins,
and not too many where they are to be written in another form. -/
def isSound (letters : List Char) : Bool :=
  !letters.head?.any isMark && keepsJoiners letters &&
    (isAscii letters || letters.length ≤ maxLetters)

/-- Reads a label whose characters are in their plain form. -/
def Label.read? (cs : List Char) : Option Label :=
  match cs with
  | 'x' :: 'n' :: '-' :: '-' :: code =>
    if !isAscii code || code.isEmpty || code.getLast? == some '-' || maxCode < code.length then none
    else
      match Punycode.decode? code with
      | some letters =>
        if letters.all isFolded && composed letters == letters && isSound letters then
          some ⟨letters, cs⟩
        else none
      | none => none
  | _ =>
    if !isSound cs then none
    else if isAscii cs then some ⟨cs, cs⟩
    else some ⟨cs, 'x' :: 'n' :: '-' :: '-' :: Punycode.encode cs⟩

/-- Whether labels can stand in one name: if one of them has a part from right to left, each of
them is written in one direction. -/
def areOneWay (labels : List Label) : Bool :=
  !labels.any (·.letters.any (directionOf · |>.turns)) ||
    labels.all fun l => l.letters.isEmpty || isOneWay l.letters

/-- The host name in ASCII. -/
def toAscii? (cs : List Char) : Option (List Char) := do
  let folded ← cs.mapM folded?
  let labels ← (split '.' (composed folded.flatten)).mapM Label.read?
  if areOneWay labels then some (join '.' (labels.map Label.ascii)) else none

end Depot.Url.Domain
