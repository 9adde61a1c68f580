/-!
# Octets read as UTF-8

`decode?` reads a whole sequence or refuses it; `decodeLossy` puts the replacement character
U+FFFD for every part that no character starts with, as names of local files are shown.
-/

namespace Depot.Text.Utf8

/-- The octets of a text. -/
def encode (cs : List Char) : List UInt8 :=
  cs.flatMap String.utf8EncodeChar

/-- The text that the octets spell, if they are well-formed. -/
def decode? (octets : List UInt8) : Option (List Char) :=
  octets.toByteArray.utf8Decode?.map Array.toList

/-! ## Reading with replacement -/

/-- What a first octet promises: how many octets follow, the range of the next one, and its bits. -/
structure Lead where
  tails : Nat
  low : UInt8
  high : UInt8
  bits : Nat

/-- The promise of a first octet, or nothing where no character starts so. -/
def lead? (b : UInt8) : Option Lead :=
  if b < 0x80 then some ⟨0, 0x80, 0xBF, b.toNat⟩
  else if b < 0xC2 then none
  else if b < 0xE0 then some ⟨1, 0x80, 0xBF, b.toNat - 0xC0⟩
  else if b = 0xE0 then some ⟨2, 0xA0, 0xBF, 0⟩
  else if b = 0xED then some ⟨2, 0x80, 0x9F, 0xD⟩
  else if b < 0xF0 then some ⟨2, 0x80, 0xBF, b.toNat - 0xE0⟩
  else if b = 0xF0 then some ⟨3, 0x90, 0xBF, 0⟩
  else if b < 0xF4 then some ⟨3, 0x80, 0xBF, b.toNat - 0xF0⟩
  else if b = 0xF4 then some ⟨3, 0x80, 0x8F, 4⟩
  else none

/-- Reads the octets that follow a first one, and stops before the first that does not fit. -/
def tail (acc : Nat) (low high : UInt8) : Nat → List UInt8 → Option Nat × List UInt8
  | 0, bs => (some acc, bs)
  | _ + 1, [] => (none, [])
  | n + 1, b :: bs =>
    if low ≤ b ∧ b ≤ high then tail (acc * 64 + (b.toNat - 0x80)) 0x80 0xBF n bs
    else (none, b :: bs)

theorem length_tail_le (acc : Nat) (low high : UInt8) (n : Nat) (bs : List UInt8) :
    (tail acc low high n bs).2.length ≤ bs.length := by
  induction n generalizing acc low high bs with
  | zero => simp [tail]
  | succ n ih =>
    cases bs with
    | nil => simp [tail]
    | cons b bs =>
      rw [tail]
      split
      · exact Nat.le_succ_of_le (ih ..)
      · simp

/-- The characters that the octets spell, with U+FFFD for each part that spells none. -/
def decodeLossy : List UInt8 → List Char
  | [] => []
  | b :: bs =>
    match lead? b with
    | none => '\uFFFD' :: decodeLossy bs
    | some l =>
      have := length_tail_le l.bits l.low l.high l.tails bs
      ((tail l.bits l.low l.high l.tails bs).1.map Char.ofNat).getD '\uFFFD'
        :: decodeLossy (tail l.bits l.low l.high l.tails bs).2
termination_by bs => bs.length
decreasing_by all_goals (simp only [List.length_cons]; omega)

end Depot.Text.Utf8
