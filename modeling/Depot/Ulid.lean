/-!
# Identifiers by time

An identifier made up on the spot is 26 characters long: 48 bits of milliseconds and 80 random
bits, written to the base 32 with digits that are not mistaken for each other. Identifiers of
different milliseconds are in the order of the time.
-/

namespace Depot.Ulid

/-- The digits: `I`, `L`, `O` and `U` are left out. -/
def alphabet : List Char :=
  "0123456789ABCDEFGHJKMNPQRSTVWXYZ".toList

/-- A digit to the base 32. -/
def digit (n : Nat) : Char :=
  alphabet.getD (n % 32) '0'

/-- The last `count` digits of a number. -/
def digits : Nat → Nat → List Char
  | 0, _ => []
  | count + 1, n => digits count (n / 32) ++ [digit n]

/-- The identifier of milliseconds since 1970 and of random bits. -/
def text (millis entropy : Nat) : String :=
  String.ofList (digits 26 (millis % Nat.pow 2 48 * Nat.pow 2 80 + entropy % Nat.pow 2 80))

end Depot.Ulid
