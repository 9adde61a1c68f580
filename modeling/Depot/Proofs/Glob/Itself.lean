import Depot.Proofs.Glob.Segments

/-!
# Texts as patterns of themselves

Any text can be taken for a pattern. Nothing of it is lost in the tokens that are read from it, one
after the other (`spelled_tokensOf`), and whatever a token stands for, it stands for its own
spelling as well (`Token.standsFor_spelling`): a star and a question mark are no slashes, and there
is no line feed in `**/`. So a pattern matches the text that it was read from (`isMatch_self`). It
can be read unless it is too long, and no text of up to nine thousand characters is
(`fits_tokensOf`).
-/

namespace Depot.Glob

/-! ## Spelling -/

/-- How a token is written in a pattern. -/
def Token.spelling : Token → List Char
  | .literal c => [c]
  | .one => ['?']
  | .many => ['*']
  | .anything => ['*', '*']
  | .places => ['*', '*', '/']

/-- How tokens are written, one after the other. -/
def spelled (ts : List Token) : List Char :=
  ts.flatMap Token.spelling

variable {ts : List Token} {t : Token} {cs : List Char} {path : String} {g : Glob}

theorem spelled_cons : spelled (t :: ts) = t.spelling ++ spelled ts :=
  List.flatMap_cons

theorem Token.standsFor_spelling (t : Token) : t.StandsFor t.spelling := by
  cases t with
  | literal c => rfl
  | one => exact ⟨'?', by decide, rfl⟩
  | many => simp [StandsFor, spelling]
  | anything => simp [StandsFor, spelling]
  | places => exact .inr ⟨['*', '*'], by simp, rfl⟩

theorem spelling_tokenOf (c : Char) : (tokenOf c).spelling = [c] := by
  unfold tokenOf
  split <;> rfl

/-- Nothing of a pattern is lost in its tokens. -/
theorem spelled_tokensOf (cs : List Char) : spelled (tokensOf cs) = cs := by
  -- By induction along the reading, which takes the spelling of each token away from the pattern.
  induction cs using tokensOf.induct with
  | case1 => rfl
  | case2 cs ih => exact congrArg (['*', '*', '/'] ++ ·) ih
  | case3 cs hslash ih =>
    have htokens : tokensOf ('*' :: '*' :: cs) = .anything :: tokensOf cs := by
      rw [tokensOf]
      exact hslash
    rw [htokens, spelled_cons, ih]
    rfl
  | case4 cs _ hstar ih =>
    have hnext : cs.head? ≠ some '*' := by
      intro h
      obtain ⟨rest, rfl⟩ := List.head?_eq_some_iff.1 h
      exact hstar rest rfl
    rw [tokensOf_star hnext, spelled_cons, ih]
    rfl
  | case5 cs ih => exact congrArg ('?' :: ·) ih
  | case6 c cs _ _ hstar _ ih =>
    rw [tokensOf_cons hstar, spelled_cons, spelling_tokenOf, ih]
    rfl

/-- Tokens match what they are written as. -/
theorem matches_spelled (ts : List Token) : Matches ts (spelled ts) := by
  induction ts with
  | nil => rfl
  | cons t ts ih => exact ⟨t.spelling, spelled ts, spelled_cons, t.standsFor_spelling, ih⟩

theorem matches_tokensOf_self (cs : List Char) : Matches (tokensOf cs) cs := by
  have hmatches := matches_spelled (tokensOf cs)
  rwa [spelled_tokensOf] at hmatches

/-- A pattern matches the text that it was read from: the same slashes are taken away from both. -/
theorem isMatch_self (hg : ofText path = .ok g) : g.isMatch path = true := by
  rw [isMatch, tokens_of_ofText hg, accepts_iff_matches]
  exact matches_tokensOf_self _

/-! ## Size -/

/-- There are no more tokens than characters. -/
theorem length_tokensOf_le (cs : List Char) : (tokensOf cs).length ≤ cs.length := by
  have hspelled : ∀ ts : List Token, ts.length ≤ (spelled ts).length := by
    intro ts
    induction ts with
    | nil => exact Nat.le_refl 0
    | cons t ts ih =>
      have hpos : 0 < t.spelling.length := by cases t <;> simp [Token.spelling]
      rw [spelled_cons, List.length_append, List.length_cons]
      omega
  have hlength := hspelled (tokensOf cs)
  rwa [spelled_tokensOf] at hlength

/-- No token takes much more than any character but one does. -/
theorem Token.size_le (t : Token) (one : Nat) : t.size one ≤ one + 144 := by
  cases t with
  | literal c =>
    have hsize := c.utf8Size_le_four
    simp only [size, octets]
    omega
  | one => exact Nat.le_add_right one 144
  | many => simp [size, octets]
  | anything => simp [size, octets]
  | places => simp [size, octets]

theorem foldl_size_le (ts : List Token) (start one : Nat) :
    ts.foldl (fun sum t => sum + t.size one) start ≤ start + ts.length * (one + 144) := by
  induction ts generalizing start with
  | nil => simp
  | cons t ts ih =>
    have hrest := ih (start + t.size one)
    have hfirst := t.size_le one
    rw [List.foldl_cons, List.length_cons, Nat.add_mul, Nat.one_mul]
    omega

/-- No text of up to nine thousand characters is too long for a pattern. -/
theorem fits_tokensOf (h : cs.length ≤ 9000) : fits (tokensOf cs) = true := by
  have hcount : (tokensOf cs).length ≤ 9000 := Nat.le_trans (length_tokensOf_le cs) h
  have hforward : forwardSize (tokensOf cs) ≤ maxSize := by
    refine Nat.le_trans (foldl_size_le _ _ _) ?_
    simp only [octets, maxSize]
    omega
  have hbackward : backwardSize (tokensOf cs) ≤ maxSize := by
    refine Nat.le_trans (foldl_size_le _ _ _) ?_
    simp only [octets, maxSize]
    omega
  exact Bool.and_eq_true_iff.2 ⟨decide_eq_true hforward, decide_eq_true hbackward⟩

end Depot.Glob
