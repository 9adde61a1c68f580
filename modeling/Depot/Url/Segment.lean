import Depot.Text.Ascii
import Depot.Url.Percent

/-!
# Encoded parts of a URL

`Encoded s` is a text made of characters that the set `s` keeps. A `Segment` is one part of a
path between slashes: encoded, free of `/`, and none of the spellings of `.` and `..`, which name
the place itself and the place above. Main statement: `Piece.of_text`, the text of a segment is
read as that segment.
-/

namespace Depot.Url

open Percent

/-! ## Encoded texts -/

/-- A text all of whose characters are kept by a set. -/
structure Encoded (keeps : Char → Bool) where
  text : String
  kept : ∀ c ∈ text.toList, keeps c = true
  deriving DecidableEq

/-- Encodes with the set `s`, where the set `keeps` has all of `s` and all that escapes need. -/
def Encoded.of {keeps : Char → Bool} (s : Char → Bool)
    (hs : ∀ c, s c = true → keeps c = true)
    (he : ∀ c, isEscapeChar c = true → keeps c = true) (cs : List Char) : Encoded keeps where
  text := String.ofList (encode s cs)
  kept := by
    intro c hc
    rw [String.toList_ofList] at hc
    exact (keeps_or_escape hc).elim (hs c) (he c)

theorem toNat_lt_of_isEscapeChar {c : Char} (h : isEscapeChar c = true) : c.toNat < 128 := by
  simp only [isEscapeChar, Bool.or_eq_true, Bool.and_eq_true, beq_iff_eq, decide_eq_true_eq] at h
  rcases h with (rfl | h) | h
  · decide
  · have : c.toNat ≤ '9'.toNat := h.2
    exact Nat.lt_of_le_of_lt this (by decide)
  · have : c.toNat ≤ 'F'.toNat := h.2
    exact Nat.lt_of_le_of_lt this (by decide)

/-- A set keeps what escapes are made of as soon as it does so among the ASCII characters. -/
theorem keeps_escape {keeps : Char → Bool}
    (h : ∀ n : Fin 128, isEscapeChar (Char.ofNat n) = true → keeps (Char.ofNat n) = true)
    (c : Char) (hc : isEscapeChar c = true) : keeps c = true :=
  Text.of_all_ascii (p := fun c => isEscapeChar c = true → keeps c = true) h
    (toNat_lt_of_isEscapeChar hc) hc

/-- A query, encoded. -/
def Encoded.query (cs : List Char) : Encoded inQuery :=
  .of inQuery (fun _ h => h) (keeps_escape (by decide)) cs

/-- The query of a web address, encoded. -/
def Encoded.webQuery (cs : List Char) : Encoded inQuery :=
  .of inWebQuery (fun c h => by simp only [inWebQuery, Bool.and_eq_true] at h; exact h.1)
    (keeps_escape (by decide)) cs

/-- A fragment, encoded. -/
def Encoded.fragment (cs : List Char) : Encoded inFragment :=
  .of inFragment (fun _ h => h) (keeps_escape (by decide)) cs

/-- A path with its slashes, encoded. -/
def Encoded.path (cs : List Char) : Encoded inPath :=
  .of inPath (fun _ h => h) (keeps_escape (by decide)) cs

/-- A path without a root, encoded. -/
def Encoded.rootless (cs : List Char) : Encoded plain :=
  .of plain (fun _ h => h) (keeps_escape (by decide)) cs

/-- A user name or a password, encoded. -/
def Encoded.userInfo (cs : List Char) : Encoded inUserInfo :=
  .of inUserInfo (fun _ h => h) (keeps_escape (by decide)) cs

/-! ## Dots -/

/-- What follows a dot, written as such or as an escape in either case. -/
def afterDot? : List Char → Option (List Char)
  | '.' :: cs => some cs
  | '%' :: '2' :: 'e' :: cs => some cs
  | '%' :: '2' :: 'E' :: cs => some cs
  | _ => none

/-- One dot: the place itself. -/
def isHere (cs : List Char) : Bool :=
  afterDot? cs == some []

/-- Two dots: the place above. -/
def isAbove (cs : List Char) : Bool :=
  (afterDot? cs).bind afterDot? == some []

/-! ## Segments -/

/-- The characters that a segment of a path is written with. -/
def inSegment (c : Char) : Bool :=
  inPath c && c != '/'

/-- A part of a path between slashes, encoded; it is neither one dot nor two. -/
structure Segment where
  text : String
  kept : ∀ c ∈ text.toList, inSegment c = true
  named : isHere text.toList = false ∧ isAbove text.toList = false
  deriving DecidableEq

/-- The segment between two slashes in a row, or after the last one. -/
def Segment.empty : Segment where
  text := ""
  kept := by simp
  named := by decide

/-- What a piece of a path says: stay here, go above, or the name of what is below. -/
inductive Piece where
  | here
  | above
  | name (segment : Segment)
  deriving DecidableEq

/-- The meaning of an encoded piece. -/
def Piece.of (cs : List Char) (kept : ∀ c ∈ cs, inSegment c = true) : Piece :=
  if h : isHere cs = true then .here
  else if a : isAbove cs = true then .above
  else .name {
    text := String.ofList cs
    kept := by rwa [String.toList_ofList]
    named := by rw [String.toList_ofList]; exact ⟨by simpa using h, by simpa using a⟩ }

/-- The characters of a piece of a written path, where `/` has been cut away. -/
theorem inSegment_of_mem_encode {cs : List Char} (h : '/' ∉ cs) {c : Char}
    (hc : c ∈ encode inPath cs) : inSegment c = true := by
  obtain ⟨d, hd, hm⟩ := List.mem_flatMap.1 hc
  split at hm
  · next hk =>
    have hcd : c = d := List.mem_singleton.1 hm
    have hne : c ≠ '/' := fun e => h (e ▸ hcd ▸ hd)
    simp [inSegment, hcd, hk, hcd ▸ hne]
  · obtain ⟨b, _, hb⟩ := List.mem_flatMap.1 hm
    exact keeps_escape (by decide) c (isEscapeChar_of_mem_escape hb)

/-- The meaning of a piece of a written path. -/
def Piece.ofPath (cs : List Char) (h : '/' ∉ cs) : Piece :=
  .of (encode inPath cs) fun _ hc => inSegment_of_mem_encode h hc

theorem inSegment_of_mem_encodeName {cs : List Char} {c : Char} (hc : c ∈ encode inName cs) :
    inSegment c = true := by
  rcases keeps_or_escape hc with h | h
  · simp only [inName, Bool.and_eq_true, Bool.not_eq_true', Bool.or_eq_false_iff] at h
    simp [inSegment, h.1, bne, h.2.1]
  · exact keeps_escape (by decide) c h

/-- The meaning of a name that is put below a path: every `/` and `%` in it is escaped. -/
def Piece.ofName (cs : List Char) : Piece :=
  .of (encode inName cs) fun _ hc => inSegment_of_mem_encodeName hc

/-- A segment's own text means the segment. -/
theorem Piece.of_text (s : Segment) : Piece.of s.text.toList s.kept = .name s := by
  simp [Piece.of, s.named.1, s.named.2, String.ofList_toList]

/-! ## Drives -/

/-- A letter with `:` or `|`, alone or before a backslash. -/
def isDrive (cs : List Char) : Bool :=
  match cs with
  | a :: b :: rest =>
    Text.isAsciiLetter a && (b == ':' || b == '|') && (rest.isEmpty || rest.head? == some '\\')
  | _ => false

/-- Whether a segment names a drive; such a segment is never left upwards. -/
def Segment.isDrive (s : Segment) : Bool :=
  Url.isDrive s.text.toList

end Depot.Url
