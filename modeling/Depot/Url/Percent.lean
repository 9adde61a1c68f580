import Depot.Text.Ascii
import Depot.Text.Utf8

/-!
# Percent escapes

Each part of a URL keeps its own set of characters as they are and writes every other one as its
UTF-8 octets, two upper-case hexadecimal digits after a `%` each. Main statement:
`keeps_or_escape`, every character of an encoded text is one that the set keeps or one that
escapes are made of.
-/

namespace Depot.Url.Percent

/-- Tabs and line ends, which do not count wherever they stand. -/
def isBreak (c : Char) : Bool :=
  c == '\t' || c == '\n' || c == '\r'

/-- A text without its tabs and line ends. -/
def unbroken (cs : List Char) : List Char :=
  cs.filter fun c => !isBreak c

/-! ## The sets of characters that stand for themselves -/

/-- Printable ASCII, the space included: what an opaque path keeps. -/
def plain (c : Char) : Bool :=
  0x20 ≤ c.toNat && c.toNat < 0x7F

/-- What a fragment keeps. -/
def inFragment (c : Char) : Bool :=
  plain c && !(c == ' ' || c == '"' || c == '<' || c == '>' || c == '\x60')

/-- What a path keeps, with the slashes between its segments. -/
def inPath (c : Char) : Bool :=
  inFragment c && !(c == '#' || c == '?' || c == '\x7b' || c == '\x7d')

/-- What a segment keeps when it is appended as a name: a path's set without `/` and `%`. -/
def inName (c : Char) : Bool :=
  inPath c && !(c == '/' || c == '%')

/-- What a user name or a password keeps. -/
def inUserInfo (c : Char) : Bool :=
  inPath c && !(c == '/' || c == ':' || c == ';' || c == '=' || c == '@' || c == '[' ||
    c == '\\' || c == ']' || c == '^' || c == '|')

/-- What a query keeps. -/
def inQuery (c : Char) : Bool :=
  plain c && !(c == ' ' || c == '"' || c == '#' || c == '<' || c == '>')

/-- What the query of a web address keeps: also the apostrophe is escaped there. -/
def inWebQuery (c : Char) : Bool :=
  inQuery c && !(c == '\x27')

/-! ## Writing -/

/-- The upper-case hexadecimal digit of a number below sixteen. -/
def hexDigit (n : Nat) : Char :=
  if n < 10 then Char.ofNat (0x30 + n) else Char.ofNat (0x37 + n)

/-- An octet as an escape. -/
def escape (b : UInt8) : List Char :=
  ['%', hexDigit (b.toNat / 16), hexDigit (b.toNat % 16)]

/-- The text with every character that is not kept written as escapes. -/
def encode (keeps : Char → Bool) (cs : List Char) : List Char :=
  cs.flatMap fun c => if keeps c then [c] else (String.utf8EncodeChar c).flatMap escape

/-- The characters that escapes are made of. -/
def isEscapeChar (c : Char) : Bool :=
  c == '%' || ('0' ≤ c && c ≤ '9') || ('A' ≤ c && c ≤ 'F')

theorem isEscapeChar_hexDigit {n : Nat} (h : n < 16) : isEscapeChar (hexDigit n) = true := by
  have all : ∀ m : Fin 16, isEscapeChar (hexDigit m) = true := by decide
  exact all ⟨n, h⟩

theorem isEscapeChar_of_mem_escape {b : UInt8} {c : Char} (h : c ∈ escape b) :
    isEscapeChar c = true := by
  have hb : b.toNat < 256 := b.toNat_lt
  simp only [escape, List.mem_cons, List.not_mem_nil, or_false] at h
  rcases h with rfl | rfl | rfl
  · decide
  · exact isEscapeChar_hexDigit (by omega)
  · exact isEscapeChar_hexDigit (by omega)

/-- Every character of an encoded text is kept by the set or part of an escape. -/
theorem keeps_or_escape {keeps : Char → Bool} {cs : List Char} {c : Char}
    (h : c ∈ encode keeps cs) : keeps c = true ∨ isEscapeChar c = true := by
  obtain ⟨d, _, hc⟩ := List.mem_flatMap.1 h
  split at hc
  · next hd => exact Or.inl (by simpa [List.mem_singleton.1 hc] using hd)
  · obtain ⟨b, _, hb⟩ := List.mem_flatMap.1 hc
    exact Or.inr (isEscapeChar_of_mem_escape hb)

/-- A text whose every character is kept is its own encoding. -/
theorem encode_of_keeps {keeps : Char → Bool} {cs : List Char} (h : ∀ c ∈ cs, keeps c = true) :
    encode keeps cs = cs := by
  induction cs with
  | nil => rfl
  | cons c cs ih =>
    have hc : keeps c = true := h c List.mem_cons_self
    have hs := ih fun d hd => h d (List.mem_cons_of_mem _ hd)
    simp only [encode, List.flatMap_cons, hc, if_true] at hs ⊢
    rw [hs]; rfl

/-! ## Reading -/

/-- The octets of a text whose escapes stand for octets; a `%` without two digits is itself. -/
def octets : List Char → List UInt8
  | [] => []
  | '%' :: h :: l :: cs =>
    match Text.hexValue? h, Text.hexValue? l with
    | some a, some b => UInt8.ofNat (16 * a + b) :: octets cs
    | _, _ => UInt8.ofNat '%'.toNat :: octets (h :: l :: cs)
  | c :: cs => String.utf8EncodeChar c ++ octets cs

/-- The text that the escapes stand for, or nothing if their octets are not UTF-8. -/
def decode? (cs : List Char) : Option (List Char) :=
  Text.Utf8.decode? (octets cs)

/-- The text that the escapes stand for; one whose octets are not UTF-8 stays as it is. -/
def decode (s : String) : String :=
  ((decode? s.toList).map String.ofList).getD s

end Depot.Url.Percent
