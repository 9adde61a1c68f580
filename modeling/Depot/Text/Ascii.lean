/-!
# ASCII

Letters and digits of the first 128 characters, and the way to check a statement on all of them.
-/

namespace Depot.Text

def isAsciiDigit (c : Char) : Bool :=
  '0' ≤ c && c ≤ '9'

def isAsciiLetter (c : Char) : Bool :=
  ('a' ≤ c && c ≤ 'z') || ('A' ≤ c && c ≤ 'Z')

def isAsciiAlphanumeric (c : Char) : Bool :=
  isAsciiLetter c || isAsciiDigit c

/-- The value of a hexadecimal digit in either case. -/
def hexValue? (c : Char) : Option Nat :=
  if '0' ≤ c ∧ c ≤ '9' then some (c.toNat - 0x30)
  else if 'A' ≤ c ∧ c ≤ 'F' then some (c.toNat - 0x37)
  else if 'a' ≤ c ∧ c ≤ 'f' then some (c.toNat - 0x57)
  else none

/-- The number that digits write to a base. -/
def numeral (base : Nat) (digits : List Char) : Nat :=
  digits.foldl (fun n c => base * n + (hexValue? c).getD 0) 0

/-- The lower-case form of an ASCII letter, and any other character as it is. -/
def asciiLower (c : Char) : Char :=
  if 'A' ≤ c ∧ c ≤ 'Z' then Char.ofNat (c.toNat + 0x20) else c

/-- A statement holds of an ASCII character if it holds of all 128 of them. -/
theorem of_all_ascii {p : Char → Prop} (all : ∀ n : Fin 128, p (Char.ofNat n)) {c : Char}
    (h : c.toNat < 128) : p c := by
  have hc := all ⟨c.toNat, h⟩
  rwa [Char.ofNat_toNat] at hc

end Depot.Text
