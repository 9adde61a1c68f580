import Depot.Text.Ascii
import Depot.Text.Pieces
import Depot.Url.Basic

/-!
# Network addresses as hosts

Reads the two kinds of addresses that can stand in place of a host name and writes them in their
shortest form.
-/

namespace Depot.Url.Address

/-! ## Version 6: eight groups of sixteen bits -/

/-- The groups read so far, and how many of them stand before `::` once that has been seen. -/
structure Groups where
  found : List Nat
  gap : Option Nat

/-- Up to `n` hexadecimal digits from the front: their value, how many there are, and the rest. -/
def hexRun (n : Nat) (cs : List Char) : Nat × Nat × List Char :=
  let digits := (cs.take n).takeWhile fun c => (Text.hexValue? c).isSome
  (Text.numeral 16 digits, digits.length, cs.drop digits.length)

/-- A decimal number up to 255, without a leading zero. -/
def octet? (cs : List Char) : Option Nat :=
  if cs.isEmpty || !cs.all Text.isAsciiDigit || (cs.head? == some '0' && 1 < cs.length) ||
      3 < cs.length then none
  else
    let n := Text.numeral 10 cs
    if n ≤ 255 then some n else none

/-- Two groups written as four decimal numbers between dots. -/
def dotted? (cs : List Char) : Option (List Nat) :=
  match (Text.split '.' cs).mapM octet? with
  | some [a, b, c, d] => some [256 * a + b, 256 * c + d]
  | _ => none

/-- Reads groups between colons; `fuel` bounds their number. -/
def groups? (fuel : Nat) (g : Groups) (cs : List Char) : Option Groups :=
  match fuel, cs with
  | _, [] => some g
  | 0, _ => none
  | fuel + 1, ':' :: cs =>
    if g.gap.isSome then none else groups? fuel ⟨g.found ++ [0], some (g.found.length + 1)⟩ cs
  | fuel + 1, cs =>
    match hexRun 4 cs with
    | (value, _, []) => some { g with found := g.found ++ [value] }
    | (value, _, ':' :: rest) =>
      if rest.isEmpty then none else groups? fuel { g with found := g.found ++ [value] } rest
    | (_, n, '.' :: _) =>
      if n = 0 ∨ 6 < g.found.length then none
      else (dotted? cs).map fun pair => { g with found := g.found ++ pair }
    | _ => none

/-- The eight groups of an address, zeros filled in at the gap. -/
def ipv6? (cs : List Char) : Option (List Nat) :=
  let start : Option (Groups × List Char) := match cs with
    | ':' :: ':' :: rest => some (⟨[0], some 1⟩, rest)
    | [] | [_] | ':' :: _ => none
    | cs => some (⟨[], none⟩, cs)
  match start.bind fun (g, cs) => groups? (8 - g.found.length) g cs with
  | some ⟨found, some gap⟩ =>
    if found.length ≤ 8 then
      some (found.take gap ++ List.replicate (8 - found.length) 0 ++ found.drop gap)
    else none
  | some ⟨found, none⟩ => if found.length = 8 then some found else none
  | none => none

/-- A number in lower-case hexadecimal digits. -/
def hexText (n : Nat) : String :=
  String.ofList (Nat.toDigits 16 n)

/-- Start and length of the first longest run of zeros, if one has two or more. -/
def zeroRun (groups : List Nat) : Option (Nat × Nat) :=
  let run := fun i => ((groups.drop i).takeWhile (· == 0)).length
  (List.range groups.length).foldl
    (fun best i => if 2 ≤ run i ∧ (best.map Prod.snd).getD 1 < run i then some (i, run i) else best)
    none

/-- An address with its longest run of zeros left out. -/
def ipv6Text (groups : List Nat) : String :=
  let between := fun gs => ":".intercalate (gs.map hexText)
  match zeroRun groups with
  | some (i, n) => between (groups.take i) ++ "::" ++ between (groups.drop (i + n))
  | none => between groups

/-! ## Version 4: four octets -/

/-- A number in decimal, octal after `0`, or hexadecimal after `0x`. -/
def number? (cs : List Char) : Option Nat :=
  let read := fun (base : Nat) (ds : List Char) =>
    if ds.all fun c => (Text.hexValue? c).any (· < base) then
      some (Text.numeral base ds)
    else none
  match cs with
  | [] => none
  | '0' :: 'x' :: ds | '0' :: 'X' :: ds => read 16 ds
  | '0' :: d :: ds => read 8 (d :: ds)
  | ds => read 10 ds

/-- The parts of a host name, without the empty one that a trailing dot leaves. -/
def parts (cs : List Char) : List (List Char) :=
  let ps := Text.split '.' cs
  if ps.getLast? = some [] ∧ 1 < ps.length then ps.dropLast else ps

/-- Whether the last part of a host name is a number, so that the name must be an address. -/
def endsInNumber (cs : List Char) : Bool :=
  match (parts cs).getLast? with
  | some last => (!last.isEmpty && last.all Text.isAsciiDigit) || (match last with
      | '0' :: 'x' :: ds | '0' :: 'X' :: ds => ds.all fun c => (Text.hexValue? c).isSome
      | _ => false)
  | none => false

/-- The number that the parts of an address spell, the last part filling all octets left. -/
def ipv4? (cs : List Char) : Option Nat :=
  match (parts cs).mapM number? with
  | some ns =>
    match ns.getLast? with
    | some last =>
      let first := ns.dropLast
      if 4 < ns.length ∨ Nat.pow 256 (5 - ns.length) ≤ last ∨ first.any (255 < ·) then none
      else some (last + first.zipIdx.foldl (fun sum (n, i) => sum + n * Nat.pow 256 (3 - i)) 0)
    | none => none
  | none => none

/-- Four octets in decimal. -/
def ipv4Text (n : Nat) : String :=
  ".".intercalate ([n / 0x1000000, n / 0x10000 % 256, n / 256 % 256, n % 256].map toString)

end Depot.Url.Address
