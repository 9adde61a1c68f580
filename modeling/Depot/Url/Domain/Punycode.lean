import Depot.Text.Ascii

/-!
# Labels in letters and digits

A label of a host name that has letters beyond ASCII is written in ASCII: first its ASCII
characters as they are, then the others in the order of their code points, each as the difference
of its place and code point from those before it. A difference is a number in 36 digits of varying
weight, least first; `threshold` says from which value on a digit has another one behind it.
-/

namespace Depot.Url.Domain.Punycode

/-- The digit for a number below 36: letters first. -/
def digitChar (n : Nat) : Char :=
  if n < 26 then Char.ofNat (0x61 + n) else Char.ofNat (0x16 + n)

/-- The number that a digit stands for. -/
def digit? (c : Char) : Option Nat :=
  let c := Text.asciiLower c
  if 'a' ≤ c ∧ c ≤ 'z' then some (c.toNat - 0x61)
  else if '0' ≤ c ∧ c ≤ '9' then some (c.toNat - 0x16)
  else none

/-- The least digit at place `k` that has another one behind it; places count by 36. -/
def threshold (bias k : Nat) : Nat :=
  if k ≤ bias + 1 then 1 else if bias + 26 ≤ k then 26 else k - bias

/-- The bias for the next difference. -/
def adapt (delta points : Nat) (first : Bool) : Nat :=
  let d := if first then delta / 700 else delta / 2
  let d := d + d / points
  let rec go (fuel d k : Nat) : Nat :=
    match fuel with
    | 0 => k
    | fuel + 1 => if 455 < d then go fuel (d / 35) (k + 36) else k + 36 * d / (d + 38)
  go d d 0

/-! ## Writing -/

/-- A difference as digits, from place `k` on. -/
def digits (bias q k fuel : Nat) : List Char :=
  match fuel with
  | 0 => []
  | fuel + 1 =>
    let t := threshold bias k
    if q < t then [digitChar q]
    else digitChar (t + (q - t) % (36 - t)) :: digits bias ((q - t) / (36 - t)) (k + 36) fuel

/-- State of writing the characters beyond ASCII in the order of their code points. -/
structure Coding where
  delta : Nat
  bias : Nat
  handled : Nat
  out : List Char

/-- Writes every occurrence of the code point `n` in the label. -/
def Coding.write (basic : Nat) (label : List Char) (n : Nat) (s : Coding) : Coding :=
  label.foldl (fun s c =>
    if c.toNat < n then { s with delta := s.delta + 1 }
    else if c.toNat = n then
      ⟨0, adapt s.delta (s.handled + 1) (s.handled == basic), s.handled + 1,
        s.out ++ digits s.bias s.delta 36 (s.delta + 1)⟩
    else s) s

/-- A label in ASCII. -/
def encode (label : List Char) : List Char :=
  let basic := label.filter (·.toNat < 128)
  let others := ((label.filter (128 ≤ ·.toNat)).map Char.toNat).mergeSort.eraseDups
  let start : Nat × Coding := (128, ⟨0, 72, basic.length, []⟩)
  let (_, s) := others.foldl (fun (n, s) m =>
    let s := { s with delta := s.delta + (m - n) * (s.handled + 1) }
    let s := s.write basic.length label m
    (m + 1, { s with delta := s.delta + 1 })) start
  basic ++ (if basic.isEmpty then [] else ['-']) ++ s.out

/-! ## Reading -/

/-- Numbers are refused from here on. -/
def limit : Nat := 0x100000000

/-- Reads a difference from place `k` on and adds it, in units of `weight`, to `sum`. -/
def difference? (bias k weight sum : Nat) : List Char → Option (Nat × List Char)
  | [] => none
  | c :: cs =>
    match digit? c with
    | none => none
    | some d =>
      let sum := sum + d * weight
      let t := threshold bias k
      let weight := weight * (36 - t)
      if limit ≤ sum then none
      else if d < t then some (sum, cs)
      else if limit ≤ weight then none
      else difference? bias (k + 36) weight sum cs

theorem length_of_difference {bias k weight sum : Nat} {cs : List Char} {r : Nat × List Char}
    (h : difference? bias k weight sum cs = some r) : r.2.length < cs.length := by
  induction cs generalizing k weight sum with
  | nil => simp [difference?] at h
  | cons c cs ih =>
    rw [difference?] at h
    split at h
    · simp at h
    · dsimp only at h
      split at h
      · simp at h
      · split at h
        · simp [← Option.some.inj h]
        · split at h
          · simp at h
          · exact Nat.lt_succ_of_lt (ih h)

/-- Puts the characters that the differences tell into `out`, the characters read so far. -/
def insertAll (bias n place : Nat) (out : List Char) (cs : List Char) : Option (List Char) :=
  if cs.isEmpty then some out
  else
    match h : difference? bias 36 1 place cs with
    | none => none
    | some (sum, rest) =>
      let points := out.length + 1
      let n := n + sum / points
      let place' := sum % points
      if n.isValidChar then
        insertAll (adapt (sum - place) points (place == 0)) n (place' + 1)
          (out.insertIdx place' (Char.ofNat n)) rest
      else none
termination_by cs.length
decreasing_by exact length_of_difference h

/-- The label that is written in ASCII as `cs`. A hyphen at the start parts nothing. -/
def decode? (cs : List Char) : Option (List Char) :=
  match cs.reverse.dropWhile (· != '-') with
  | [] => insertAll 72 128 0 [] cs
  | [_] => none
  | _ :: basic =>
    let basic := basic.reverse
    insertAll 72 128 0 (basic.map Text.asciiLower) (cs.drop (basic.length + 1))

end Depot.Url.Domain.Punycode
