import Depot.Text.Pieces
import Depot.Url.Segment

/-!
# Paths

A path is a list of segments, each written after a slash. `Path.ofText` reads a path and resolves
its dots, `Path.append` puts names below a path. Main statement: `rooted_append`, a path that does
not start with an empty segment before another one keeps that when names are put below it.
-/

namespace Depot.Url

/-- The segments of a path in order, each after a slash; none at all is the empty path. -/
abbrev Path := List Segment

namespace Path

/-- A path as it is written. -/
def chars (p : Path) : List Char :=
  p.flatMap fun s => '/' :: s.text.toList

/-! ## Going up and down -/

/-- The place above a path; from the root, and from a drive, there is no way up. -/
def up (p : Path) : Path :=
  match p.getLast? with
  | some s => if s.isDrive then p else p.dropLast
  | none => p

/-- The path after a piece that another one follows. -/
def enter (p : Path) : Piece → Path
  | .here => p
  | .above => p.up
  | .name s => p ++ [s]

/-- The path after the last piece; dots leave it open towards what is below. -/
def close (p : Path) : Piece → Path
  | .here => p ++ [.empty]
  | .above => p.up ++ [.empty]
  | .name s => p ++ [s]

/-- The path that the pieces lead to from `p`. -/
def follow (p : Path) : List Piece → Path
  | [] => p
  | [last] => p.close last
  | piece :: pieces => (p.enter piece).follow pieces

/-! ## Reading -/

/-- The pieces of a written path after its first slash. -/
def piecesOf (cs : List Char) : List Piece :=
  (Text.split '/' cs).attach.map fun p => Piece.ofPath p.1 (Text.not_mem_of_mem_split p.2)

/-- The path that is written as `cs` after its first slash. -/
def ofText (cs : List Char) : Path :=
  follow [] (piecesOf cs)

/-! ## Names below a path -/

/-- A path without the open end that a trailing slash leaves. -/
def trimEnd (p : Path) : Path :=
  match p.getLast? with
  | some s => if s = .empty ∧ 2 ≤ p.length then p.dropLast else p
  | none => p

/-- The path with one name below it. The names of the place itself and of the place above add
nothing; tabs and line breaks are dropped from a name. -/
def appendName (p : Path) (name : String) : Path :=
  if name = "." ∨ name = ".." then p
  else
    close (if p = [.empty] then [] else p)
      (.ofName (Percent.unbroken name.toList))

/-- The path with the names below it, one after the other. -/
def append (p : Path) (names : List String) : Path :=
  names.foldl appendName p.trimEnd

/-! ## Paths that start with a name -/

/-- No empty segment at the start with more to follow. -/
def Rooted : Path → Prop
  | s :: _ :: _ => s ≠ .empty
  | _ => True

instance : DecidablePred Rooted
  | [] => isTrue trivial
  | [_] => isTrue trivial
  | s :: _ :: _ => inferInstanceAs (Decidable (s ≠ .empty))

theorem rooted_cons {s : Segment} (h : s ≠ .empty) (p : Path) : Rooted (s :: p) := by
  cases p with
  | nil => trivial
  | cons t p => exact h

theorem rooted_up {p : Path} (h : Rooted p) : Rooted p.up := by
  unfold up
  split
  · split
    · exact h
    · match p, h with
      | [], _ => trivial
      | [_], _ => trivial
      | [_, _], _ => trivial
      | _ :: _ :: _ :: _, h => exact h
  · exact h

theorem rooted_concat {p : Path} (h : Rooted p) (hp : p ≠ [.empty]) (s : Segment) :
    Rooted (p ++ [s]) := by
  match p, h with
  | [], _ => trivial
  | [a], _ => intro e; exact hp (by rw [e])
  | _ :: _ :: _, h => exact h

theorem up_ne_open {p : Path} (h : Rooted p) (hp : p ≠ [.empty]) : p.up ≠ [.empty] := by
  unfold up
  split
  · split
    · exact hp
    · match p, h with
      | [], _ => simp
      | [_], _ => simp
      | [_, _], h => intro e; exact h (by simpa using e)
      | _ :: _ :: _ :: _, _ => simp
  · exact hp

theorem rooted_close {p : Path} (h : Rooted p) (hp : p ≠ [.empty]) (piece : Piece) :
    Rooted (p.close piece) := by
  cases piece with
  | here => exact rooted_concat h hp _
  | above => exact rooted_concat (rooted_up h) (up_ne_open h hp) _
  | name s => exact rooted_concat h hp s

theorem rooted_trimEnd {p : Path} (h : Rooted p) : Rooted p.trimEnd := by
  unfold trimEnd
  split
  · split
    · match p, h with
      | [], _ => trivial
      | [_], _ => trivial
      | [_, _], _ => trivial
      | _ :: _ :: _ :: _, h => exact h
    · exact h
  · exact h

theorem rooted_appendName {p : Path} (h : Rooted p) (name : String) :
    Rooted (p.appendName name) := by
  unfold appendName
  split
  · exact h
  · split
    · exact rooted_close (by trivial) (by simp) _
    · next hp => exact rooted_close h hp _

/-- Names put below a path do not bring an empty segment to its start. -/
theorem rooted_append {p : Path} (h : Rooted p) (names : List String) :
    Rooted (p.append names) := by
  unfold append
  have hp := rooted_trimEnd h
  generalize p.trimEnd = q at hp
  induction names generalizing q with
  | nil => exact hp
  | cons n ns ih => exact ih _ (rooted_appendName hp n)

end Path

end Depot.Url
