/-!
# Pieces of a text between separators

`split` cuts a list, of characters for the most part, at every separator and `join` puts the
pieces back; `cut` cuts at the first one only. Main statements: `join_split` (nothing is lost),
`split_join` (pieces free of the separator are found again), `not_mem_of_mem_split` (no piece holds
the separator), `split_isPrefix_split_iff` (pieces go on from other pieces as the texts do),
`glue_pieces` and `pieces_glue` (the first two for strings), `append_marked_cut` and `cut_append`
(a cut loses nothing, and finds what was put around the separator) and `trim_join` (a separator
before joined pieces is trimmed, and nothing else).
-/

namespace Depot.Text

variable {α : Type} [DecidableEq α]

/-- The pieces of a text between the occurrences of `sep`, one more than there are separators. -/
def split (sep : α) : List α → List (List α)
  | [] => [[]]
  | c :: cs => if c = sep then [] :: split sep cs else (split sep cs).modifyHead (c :: ·)

/-- The pieces in order, with `sep` between neighbours. -/
def join (sep : α) : List (List α) → List α
  | [] => []
  | [p] => p
  | p :: ps => p ++ sep :: join sep ps

/-- The text before the first `sep`, and the text after it if there is one. -/
def cut (sep : α) (cs : List α) : List α × Option (List α) :=
  (cs.takeWhile (· != sep), match cs.dropWhile (· != sep) with
    | [] => none
    | _ :: rest => some rest)

/-- A text after its separator, if it is there: what `cut` takes away. -/
def marked (sep : α) : Option (List α) → List α
  | some cs => sep :: cs
  | none => []

/-- The text without the leading occurrences of `c`. -/
def trimStart (c : α) (cs : List α) : List α :=
  cs.dropWhile (· == c)

/-- The text without the leading and trailing occurrences of `c`. -/
def trim (c : α) (cs : List α) : List α :=
  (trimStart c (trimStart c cs).reverse).reverse

/-- The pieces of a string between the occurrences of `sep`. -/
def pieces (sep : Char) (s : String) : List String :=
  (split sep s.toList).map String.ofList

/-- The strings in order, with `sep` between neighbours. -/
def glue (sep : Char) (parts : List String) : String :=
  String.ofList (join sep (parts.map String.toList))

/-! ## Laws -/

theorem split_ne_nil (sep : α) (cs : List α) : split sep cs ≠ [] := by
  induction cs with
  | nil => simp [split]
  | cons c cs ih =>
    rw [split]
    split
    · simp
    · cases h : split sep cs with
      | nil => exact absurd h ih
      | cons p ps => simp

omit [DecidableEq α] in
theorem join_cons_of_ne_nil (sep : α) (p : List α) {ps : List (List α)} (h : ps ≠ []) :
    join sep (p :: ps) = p ++ sep :: join sep ps := by
  cases ps with
  | nil => exact absurd rfl h
  | cons q qs => rfl

omit [DecidableEq α] in
/-- Two lists of pieces are joined one after the other with a separator in between. -/
theorem join_append (sep : α) {ps qs : List (List α)} (hps : ps ≠ []) (hqs : qs ≠ []) :
    join sep (ps ++ qs) = join sep ps ++ sep :: join sep qs := by
  induction ps with
  | nil => exact absurd rfl hps
  | cons p ps ih =>
    rw [List.cons_append, join_cons_of_ne_nil sep p (List.append_ne_nil_of_right_ne_nil ps hqs)]
    cases ps with
    | nil => rfl
    | cons q ps =>
      rw [ih (List.cons_ne_nil q ps), join_cons_of_ne_nil sep p (List.cons_ne_nil q ps),
        List.append_assoc, List.cons_append]

omit [DecidableEq α] in
/-- Pieces with a separator before each are the joined pieces with a separator before them. -/
theorem flatMap_sep_cons {sep : α} {ps : List (List α)} (hne : ps ≠ []) :
    ps.flatMap (sep :: ·) = sep :: join sep ps := by
  induction ps with
  | nil => exact absurd rfl hne
  | cons p ps ih =>
    by_cases hps : ps = []
    · simp [hps, join]
    · rw [List.flatMap_cons, ih hps, join_cons_of_ne_nil sep p hps, List.cons_append]

omit [DecidableEq α] in
/-- What is in joined pieces, separators apart, is in one of them. -/
theorem mem_join_iff {sep c : α} {ps : List (List α)} (h : c ≠ sep) :
    c ∈ join sep ps ↔ ∃ p ∈ ps, c ∈ p := by
  induction ps with
  | nil => simp [join]
  | cons p ps ih =>
    by_cases hps : ps = []
    · simp [hps, join]
    · rw [join_cons_of_ne_nil sep p hps]
      simp [h, ih]

/-- Joining the pieces of a text gives the text back. -/
theorem join_split (sep : α) (cs : List α) : join sep (split sep cs) = cs := by
  induction cs with
  | nil => rfl
  | cons c cs ih =>
    rw [split]
    split
    · next h => rw [join_cons_of_ne_nil sep [] (split_ne_nil sep cs), ih, h]; rfl
    · cases h : split sep cs with
      | nil => exact absurd h (split_ne_nil sep cs)
      | cons p ps =>
        rw [h] at ih
        cases ps with
        | nil => simpa [join] using ih
        | cons q qs => simpa [join] using ih

/-- A text without the separator is its own single piece. -/
theorem split_of_not_mem {sep : α} {cs : List α} (h : sep ∉ cs) : split sep cs = [cs] := by
  induction cs with
  | nil => rfl
  | cons c cs ih =>
    have hc : c ≠ sep := fun e => h (e ▸ List.mem_cons_self)
    have hs : sep ∉ cs := fun m => h (List.mem_cons_of_mem _ m)
    simp [split, hc, ih hs]

theorem split_append {sep : α} {p : List α} (h : sep ∉ p) (cs : List α) :
    split sep (p ++ sep :: cs) = p :: split sep cs := by
  induction p with
  | nil => simp [split]
  | cons c p ih =>
    have hc : c ≠ sep := fun e => h (e ▸ List.mem_cons_self)
    have hp : sep ∉ p := fun m => h (List.mem_cons_of_mem _ m)
    simp [split, hc, ih hp]

/-- Splitting joined pieces finds the pieces, when none of them holds the separator. -/
theorem split_join {sep : α} {ps : List (List α)} (hne : ps ≠ []) (h : ∀ p ∈ ps, sep ∉ p) :
    split sep (join sep ps) = ps := by
  induction ps with
  | nil => exact absurd rfl hne
  | cons p ps ih =>
    cases ps with
    | nil => exact split_of_not_mem (h p List.mem_cons_self)
    | cons q qs =>
      rw [join, split_append (h p List.mem_cons_self),
        ih (by simp) (fun r hr => h r (List.mem_cons_of_mem _ hr))]
      simp

/-- No piece of a split text holds the separator. -/
theorem not_mem_of_mem_split {sep : α} {cs p : List α} (h : p ∈ split sep cs) :
    sep ∉ p := by
  induction cs generalizing p with
  | nil => simp [split] at h; simp [h]
  | cons c cs ih =>
    rw [split] at h
    split at h
    · rcases List.mem_cons.1 h with rfl | h
      · simp
      · exact ih h
    · next hc =>
      cases hs : split sep cs with
      | nil => exact absurd hs (split_ne_nil sep cs)
      | cons q qs =>
        rw [hs, List.modifyHead_cons] at h
        rcases List.mem_cons.1 h with rfl | h
        · have hq : sep ∉ q := ih (hs ▸ List.mem_cons_self)
          simp [Ne.symm hc, hq]
        · exact ih (hs ▸ List.mem_cons_of_mem _ h)

/-- A separator parts the pieces before it from those after it. -/
theorem split_append_sep (sep : α) (cs ds : List α) :
    split sep (cs ++ sep :: ds) = split sep cs ++ split sep ds := by
  induction cs with
  | nil => simp [split]
  | cons c cs ih =>
    by_cases hc : c = sep
    · simp [split, hc, ih]
    · obtain ⟨p, ps, hps⟩ := List.exists_cons_of_ne_nil (split_ne_nil sep cs)
      simp [split, hc, ih, hps]

theorem split_eq_singleton_iff {sep : α} {cs p : List α} :
    split sep cs = [p] ↔ cs = p ∧ sep ∉ p := by
  constructor
  · intro h
    have hcs : cs = p := by rw [← join_split sep cs, h, join]
    exact ⟨hcs, not_mem_of_mem_split (h ▸ List.mem_singleton_self p)⟩
  · rintro ⟨rfl, h⟩
    exact split_of_not_mem h

/-- Where the pieces of a text fall into two parts there is a separator. -/
theorem split_eq_append_iff {sep : α} {cs : List α} {ps qs : List (List α)} (hps : ps ≠ [])
    (hqs : qs ≠ []) :
    split sep cs = ps ++ qs ↔
      ∃ front back, cs = front ++ sep :: back ∧ split sep front = ps ∧ split sep back = qs := by
  constructor
  · intro h
    have hfree : ∀ p ∈ ps ++ qs, sep ∉ p := fun p hp => not_mem_of_mem_split (h ▸ hp)
    refine ⟨join sep ps, join sep qs, ?_, ?_, ?_⟩
    · rw [← join_append sep hps hqs, ← h, join_split]
    · exact split_join hps fun p hp => hfree p (List.mem_append_left _ hp)
    · exact split_join hqs fun p hp => hfree p (List.mem_append_right _ hp)
  · rintro ⟨front, back, rfl, rfl, rfl⟩
    exact split_append_sep sep front back

/-- The pieces of a text begin with those of another one if the text is the other one, or goes on
from it behind a separator. -/
theorem split_isPrefix_split_iff {sep : α} {cs ds : List α} :
    split sep cs <+: split sep ds ↔ ds = cs ∨ ∃ rest, ds = cs ++ sep :: rest := by
  constructor
  · rintro ⟨qs, hqs⟩
    have hds : ds = join sep (split sep cs ++ qs) := by rw [hqs, join_split]
    by_cases hnil : qs = []
    · left
      rw [hds, hnil, List.append_nil, join_split]
    · right
      refine ⟨join sep qs, ?_⟩
      rw [hds, join_append sep (split_ne_nil sep cs) hnil, join_split]
  · rintro (rfl | ⟨rest, rfl⟩)
    · exact List.prefix_rfl
    · rw [split_append_sep]
      exact List.prefix_append _ _

/-- The last of joined pieces may hold the separator: it falls into its own pieces. -/
theorem split_join_concat {sep : α} {ps : List (List α)} (h : ∀ p ∈ ps, sep ∉ p) (cs : List α) :
    split sep (join sep (ps ++ [cs])) = ps ++ split sep cs := by
  induction ps with
  | nil => rfl
  | cons p ps ih =>
    rw [List.cons_append, join_cons_of_ne_nil sep p (by simp),
      split_append (h p List.mem_cons_self), ih fun q hq => h q (List.mem_cons_of_mem _ hq),
      List.cons_append]

/-! ## Pieces of strings -/

theorem pieces_ne_nil (sep : Char) (s : String) : pieces sep s ≠ [] := by
  simpa [pieces] using split_ne_nil sep s.toList

/-- A string is glued together from its pieces. -/
theorem glue_pieces (sep : Char) (s : String) : glue sep (pieces sep s) = s := by
  simp [glue, pieces, join_split]

theorem not_mem_of_mem_pieces {sep : Char} {s part : String} (h : part ∈ pieces sep s) :
    sep ∉ part.toList := by
  obtain ⟨cs, hcs, rfl⟩ := List.mem_map.1 h
  rw [String.toList_ofList]
  exact not_mem_of_mem_split hcs

/-- The pieces of a glued string are what it was put together from. -/
theorem pieces_glue {sep : Char} {parts : List String} (hne : parts ≠ [])
    (h : ∀ part ∈ parts, sep ∉ part.toList) : pieces sep (glue sep parts) = parts := by
  have hsplit := split_join (by simpa using hne) (List.forall_mem_map.2 h)
  simp [pieces, glue, hsplit]

/-- The last of glued strings falls into its own pieces. -/
theorem pieces_glue_concat {sep : Char} {parts : List String}
    (h : ∀ part ∈ parts, sep ∉ part.toList) (s : String) :
    pieces sep (glue sep (parts ++ [s])) = parts ++ pieces sep s := by
  have hsplit := split_join_concat (List.forall_mem_map.2 h) s.toList
  simp [pieces, glue, hsplit]

/-- The pieces of a string determine it. -/
theorem pieces_injective {sep : Char} {s t : String} (h : pieces sep s = pieces sep t) : s = t := by
  rw [← glue_pieces sep s, h, glue_pieces]

/-- The pieces of a string begin with those of another one if the string is the other one, or goes
on from it behind a separator. -/
theorem pieces_isPrefix_pieces_iff {sep : Char} {s t : String} :
    pieces sep s <+: pieces sep t ↔ t = s ∨ ∃ rest, t.toList = s.toList ++ sep :: rest := by
  have hsplit : pieces sep s <+: pieces sep t ↔ split sep s.toList <+: split sep t.toList := by
    constructor
    · rintro ⟨ps, hps⟩
      obtain ⟨front, back, hback, hfront, -⟩ := List.map_eq_append_iff.1 hps.symm
      rw [hback, (List.map_inj_right fun _ _ => String.ofList_inj.1).1 hfront]
      exact List.prefix_append _ _
    · exact fun h => h.map String.ofList
  rw [hsplit, split_isPrefix_split_iff, String.toList_inj]

/-! ## Cutting -/

/-- A cut loses nothing. -/
theorem append_marked_cut (sep : α) (cs : List α) :
    (cut sep cs).1 ++ marked sep (cut sep cs).2 = cs := by
  induction cs with
  | nil => rfl
  | cons c cs ih =>
    by_cases hc : c = sep
    · simp [cut, marked, hc]
    · have hcut : cut sep (c :: cs) = (c :: (cut sep cs).1, (cut sep cs).2) := by
        simp [cut, hc]
      rw [hcut, List.cons_append, ih]

/-- A cut finds what stands before the first separator and what stands after it. -/
theorem cut_append {sep : α} {p : List α} (h : sep ∉ p) (rest : Option (List α)) :
    cut sep (p ++ marked sep rest) = (p, rest) := by
  have hp : ∀ c ∈ p, (c != sep) = true := fun c hc => by
    simpa using fun (e : c = sep) => h (e ▸ hc)
  unfold cut
  rw [List.takeWhile_append_of_pos hp, List.dropWhile_append_of_pos hp]
  cases rest <;> simp [marked]

/-! ## Trimming -/

theorem trimStart_of_head?_ne {c : α} {cs : List α} (h : cs.head? ≠ some c) :
    trimStart c cs = cs := by
  cases cs with
  | nil => rfl
  | cons d cs =>
    have hd : d ≠ c := fun e => h (e ▸ rfl)
    rw [trimStart, List.dropWhile_cons_of_neg (by simpa using hd)]

/-- Trimming takes nothing away but what is trimmed. -/
theorem mem_trimStart_iff {c d : α} {cs : List α} (h : d ≠ c) : d ∈ trimStart c cs ↔ d ∈ cs := by
  induction cs with
  | nil => rfl
  | cons b cs ih =>
    by_cases hb : b = c
    · rw [trimStart, List.dropWhile_cons_of_pos (by simpa using hb), ← trimStart, ih]
      simp [hb, h]
    · rw [trimStart, List.dropWhile_cons_of_neg (by simpa using hb)]

omit [DecidableEq α] in
theorem head?_join_ne {sep : α} {ps : List (List α)} (h : ∀ p ∈ ps, p ≠ [] ∧ sep ∉ p) :
    (join sep ps).head? ≠ some sep := by
  cases ps with
  | nil => simp [join]
  | cons p ps =>
    obtain ⟨hne, hsep⟩ := h p List.mem_cons_self
    obtain ⟨c, cs, rfl⟩ := List.exists_cons_of_ne_nil hne
    have hhead : (join sep ((c :: cs) :: ps)).head? = some c := by cases ps <;> rfl
    rw [hhead]
    rintro ⟨⟩
    exact hsep List.mem_cons_self

omit [DecidableEq α] in
theorem getLast?_join_ne {sep : α} {ps : List (List α)} (h : ∀ p ∈ ps, p ≠ [] ∧ sep ∉ p) :
    (join sep ps).getLast? ≠ some sep := by
  induction ps with
  | nil => simp [join]
  | cons p ps ih =>
    have hrest := ih fun q hq => h q (List.mem_cons_of_mem _ hq)
    cases ps with
    | nil => exact fun hlast => (h p List.mem_cons_self).2 (List.mem_of_getLast? hlast)
    | cons q ps =>
      -- The last piece is not empty, so that the separators before it are not at the end.
      have hne : join sep (q :: ps) ≠ [] := by
        have hq := (h q (List.mem_cons_of_mem _ List.mem_cons_self)).1
        cases ps <;> simp [join, hq]
      rw [join_cons_of_ne_nil sep p (List.cons_ne_nil q ps), List.getLast?_append,
        List.getLast?_cons_of_ne_nil hne, Option.or_of_isSome (List.getLast?_isSome.2 hne)]
      exact hrest

/-- A separator before joined pieces is all that there is to trim. -/
theorem trim_join {sep : α} {ps : List (List α)} (h : ∀ p ∈ ps, p ≠ [] ∧ sep ∉ p) :
    trim sep (sep :: join sep ps) = join sep ps := by
  have hfirst : trimStart sep (sep :: join sep ps) = join sep ps := by
    rw [trimStart, List.dropWhile_cons_of_pos (by simp)]
    exact trimStart_of_head?_ne (head?_join_ne h)
  have hlast : (join sep ps).reverse.head? ≠ some sep := by
    rw [List.head?_reverse]
    exact getLast?_join_ne h
  rw [trim, hfirst, trimStart_of_head?_ne hlast, List.reverse_reverse]

end Depot.Text
