import Depot.Glob
import Depot.Proofs.Glob.Tokens

/-!
# Patterns by segments

A pattern without runs of stars other than `**` between slashes can be read segment by segment: `**`
stands for any number of segments of a path, at least one if it is at the end, and every other
segment for one (`PathFits`), in which `*` stands for any run of characters, `?` for any character
and all others for themselves (`SegmentFits`). On paths of one line that is what the pattern matches
(`isMatch_iff_pathFits`), although it is read character by character and slashes are characters
like others.
-/

namespace Depot.Glob

/-! ## Meaning by segments -/

/-- A segment of a path is what a segment of a pattern stands for. -/
inductive SegmentFits : List Char → List Char → Prop
  | nil : SegmentFits [] []
  | many {p q : List Char} (run : List Char) : SegmentFits p q → SegmentFits ('*' :: p) (run ++ q)
  | one {p q : List Char} (c : Char) : SegmentFits p q → SegmentFits ('?' :: p) (c :: q)
  | self {p q : List Char} {c : Char} : c ≠ '*' → c ≠ '?' → SegmentFits p q →
      SegmentFits (c :: p) (c :: q)

/-- The segment `**`. -/
def stars : List Char := ['*', '*']

/-- The segments of a path are what the segments of a pattern stand for, in order. -/
inductive PathFits : List (List Char) → List (List Char) → Prop
  | nil : PathFits [] []
  | last {qs : List (List Char)} : qs ≠ [] → PathFits [stars] qs
  | stars {ps qs : List (List Char)} (skipped : List (List Char)) : ps ≠ [] → PathFits ps qs →
      PathFits (stars :: ps) (skipped ++ qs)
  | segment {p q : List Char} {ps qs : List (List Char)} : p ≠ Glob.stars → SegmentFits p q →
      PathFits ps qs → PathFits (p :: ps) (q :: qs)

/-- Several stars after each other are `**` between slashes. -/
def IsPlain (p : List Char) : Prop :=
  '/' ∉ p ∧ (stars <:+: p → p = stars)

variable {p q cs rest : List Char} {ps qs : List (List Char)} {c : Char}

theorem pathFits_singleton_stars_iff : PathFits [stars] qs ↔ qs ≠ [] := by
  constructor
  · intro h
    cases h with
    | last hne => exact hne
    | stars _ hne _ => exact absurd rfl hne
    | segment hne _ _ => exact absurd rfl hne
  · exact PathFits.last

theorem pathFits_cons_stars_iff (hne : ps ≠ []) :
    PathFits (stars :: ps) qs ↔ ∃ skipped rest, qs = skipped ++ rest ∧ PathFits ps rest := by
  constructor
  · intro h
    cases h with
    | last _ => exact absurd rfl hne
    | stars skipped _ h => exact ⟨skipped, _, rfl, h⟩
    | segment hne _ _ => exact absurd rfl hne
  · rintro ⟨skipped, rest, rfl, h⟩
    exact .stars skipped hne h

theorem pathFits_cons_iff (hp : p ≠ stars) :
    PathFits (p :: ps) qs ↔ ∃ q rest, qs = q :: rest ∧ SegmentFits p q ∧ PathFits ps rest := by
  constructor
  · intro h
    cases h with
    | last _ => exact absurd rfl hp
    | stars _ _ _ => exact absurd rfl hp
    | segment _ hq h => exact ⟨_, _, rfl, hq, h⟩
  · rintro ⟨q, rest, rfl, hq, h⟩
    exact .segment hp hq h

/-- Nothing but the empty pattern stands for no segments at all. -/
theorem PathFits.eq_nil (h : PathFits ps []) : ps = [] := by
  generalize hqs : ([] : List (List Char)) = qs at h
  induction h with
  | nil => rfl
  | last hne => exact absurd hqs.symm hne
  | stars skipped hne _ ih =>
    obtain ⟨-, rfl⟩ := List.append_eq_nil_iff.1 hqs.symm
    exact absurd (ih rfl) hne
  | segment => cases hqs

/-! ## The tokens of a segment -/

/-- The token of a character that no other star stands beside. -/
def tokenOf : Char → Token
  | '*' => .many
  | '?' => .one
  | c => .literal c

theorem tokensOf_star (h : cs.head? ≠ some '*') : tokensOf ('*' :: cs) = .many :: tokensOf cs := by
  cases cs with
  | nil => rfl
  | cons c cs =>
    have hc : c ≠ '*' := fun e => h (e ▸ rfl)
    simp [tokensOf, hc]

theorem tokensOf_cons (h : c ≠ '*') : tokensOf (c :: cs) = tokenOf c :: tokensOf cs := by
  by_cases hc : c = '?'
  · rw [hc]
    rfl
  · simp [tokensOf, tokenOf, h]

/-- Without two stars beside each other, every character is a token. -/
theorem tokensOf_append (hp : ¬stars <:+: p) (hrest : rest.head? ≠ some '*') :
    tokensOf (p ++ rest) = p.map tokenOf ++ tokensOf rest := by
  induction p with
  | nil => rfl
  | cons c p ih =>
    have hp' : ¬stars <:+: p := fun h => hp (h.trans (List.suffix_cons c p).isInfix)
    by_cases hc : c = '*'
    · -- No star stands behind this one, neither in the segment nor where it ends.
      have hnext : (p ++ rest).head? ≠ some '*' := by
        cases p with
        | nil => exact hrest
        | cons d p =>
          rintro ⟨⟩
          exact hp ⟨[], p, by rw [hc]; rfl⟩
      rw [hc, List.cons_append, tokensOf_star hnext, ih hp']
      rfl
    · rw [List.cons_append, tokensOf_cons hc, ih hp']
      rfl

/-- A segment fits if it begins with what a character stands for and goes on with what fits the
rest. -/
theorem segmentFits_cons_iff (hc : c ≠ '/') :
    '/' ∉ cs ∧ SegmentFits (c :: p) cs ↔
      (tokenOf c).Leads (fun rest => '/' ∉ rest ∧ SegmentFits p rest) cs := by
  -- That there is no slash is part of both sides: tokens know of characters and not of segments.
  constructor
  · rintro ⟨hcs, h⟩
    cases h with
    | @many _ rest run h =>
      rw [List.mem_append, not_or] at hcs
      exact ⟨run, rest, rfl, hcs.1, hcs.2, h⟩
    | @one _ rest d h =>
      rw [List.mem_cons, not_or] at hcs
      exact ⟨[d], rest, rfl, ⟨d, Ne.symm hcs.1, rfl⟩, hcs.2, h⟩
    | @self _ rest _ hstar hone h =>
      rw [List.mem_cons, not_or] at hcs
      refine ⟨[c], rest, rfl, ?_, hcs.2, h⟩
      simp [tokenOf, Token.StandsFor]
  · rintro ⟨front, rest, rfl, hfront, hrest, h⟩
    by_cases hstar : c = '*'
    · subst hstar
      have hrun : '/' ∉ front := hfront
      exact ⟨by simp [hrun, hrest], .many front h⟩
    · by_cases hone : c = '?'
      · subst hone
        obtain ⟨d, hd, rfl⟩ := hfront
        exact ⟨by simp [Ne.symm hd, hrest], .one d h⟩
      · have hself : front = [c] := by simpa [tokenOf, hstar, hone, Token.StandsFor] using hfront
        subst hself
        exact ⟨by simp [Ne.symm hc, hrest], .self hstar hone h⟩

/-- The tokens of a segment match the segments that it stands for. -/
theorem matches_map_tokenOf (hp : '/' ∉ p) :
    Matches (p.map tokenOf) cs ↔ '/' ∉ cs ∧ SegmentFits p cs := by
  induction p generalizing cs with
  | nil =>
    constructor
    · rintro rfl
      exact ⟨List.not_mem_nil, .nil⟩
    · rintro ⟨-, ⟨⟩⟩
      rfl
  | cons c p ih =>
    rw [List.mem_cons, not_or] at hp
    rw [segmentFits_cons_iff (Ne.symm hp.1), List.map_cons, Matches]
    simp only [Token.Leads, ih hp.2]

/-! ## The segments of a pattern -/

/-- One segment is at the end of a path that is one segment. -/
theorem matches_last_iff (hp : IsPlain p) (hline : '\n' ∉ cs) :
    Matches (tokensOf p) cs ↔ PathFits [p] (Text.split '/' cs) := by
  by_cases hstars : p = stars
  · rw [hstars, pathFits_singleton_stars_iff]
    have hany : Matches [.anything] cs := ⟨cs, [], (List.append_nil cs).symm, hline, rfl⟩
    exact ⟨fun _ => Text.split_ne_nil '/' cs, fun _ => hany⟩
  · have htokens : tokensOf p = p.map tokenOf := by
      have hinfix : ¬stars <:+: p := fun h => hstars (hp.2 h)
      have happend : tokensOf (p ++ []) = p.map tokenOf ++ tokensOf [] :=
        tokensOf_append hinfix (by simp)
      rwa [List.append_nil, tokensOf, List.append_nil] at happend
    rw [htokens, matches_map_tokenOf hp.1, pathFits_cons_iff hstars]
    constructor
    · rintro ⟨hcs, hfits⟩
      exact ⟨cs, [], Text.split_of_not_mem hcs, hfits, .nil⟩
    · rintro ⟨q, rest, hsplit, hfits, hrest⟩
      cases hrest
      obtain ⟨rfl, hcs⟩ := Text.split_eq_singleton_iff.1 hsplit
      exact ⟨hcs, hfits⟩

/-- `**` at the beginning takes any number of segments away. -/
theorem matches_places_iff {ts : List Token} (hne : ps ≠ []) (hline : '\n' ∉ cs)
    (ih : ∀ {cs}, '\n' ∉ cs → (Matches ts cs ↔ PathFits ps (Text.split '/' cs))) :
    Matches (.places :: ts) cs ↔ PathFits (stars :: ps) (Text.split '/' cs) := by
  -- Nothing is taken away and no segments are skipped, or a run up to a slash and the segments that
  -- it is made of. A slash is there because the rest of the pattern does not stand for no segments.
  rw [Matches, leads_places_iff, pathFits_cons_stars_iff hne, ih hline]
  simp only [RunThen, leads_literal_iff]
  constructor
  · rintro (h | ⟨run, _, rfl, -, rest, rfl, h⟩)
    · exact ⟨[], _, rfl, h⟩
    · have hrest : '\n' ∉ rest := fun hmem => hline (by simp [hmem])
      exact ⟨_, _, Text.split_append_sep '/' run rest, (ih hrest).1 h⟩
  · rintro ⟨skipped, rest, hsplit, h⟩
    by_cases hskipped : skipped = []
    · left
      rwa [hsplit, hskipped]
    · right
      have hrest : rest ≠ [] := by
        rintro rfl
        exact hne h.eq_nil
      obtain ⟨run, back, rfl, rfl, rfl⟩ := (Text.split_eq_append_iff hskipped hrest).1 hsplit
      rw [List.mem_append, List.mem_cons, not_or, not_or] at hline
      exact ⟨run, '/' :: back, rfl, forall_bne_iff.2 hline.1, back, rfl, (ih hline.2.2).2 h⟩

/-- Any other segment at the beginning takes one segment away. -/
theorem matches_segment_iff {ts : List Token} (hp : '/' ∉ p) (hstars : p ≠ stars) (hne : ps ≠ [])
    (hline : '\n' ∉ cs)
    (ih : ∀ {cs}, '\n' ∉ cs → (Matches ts cs ↔ PathFits ps (Text.split '/' cs))) :
    Matches (p.map tokenOf ++ .literal '/' :: ts) cs ↔
      PathFits (p :: ps) (Text.split '/' cs) := by
  rw [matches_append, pathFits_cons_iff hstars]
  simp only [Matches, leads_literal_iff, matches_map_tokenOf hp]
  constructor
  · rintro ⟨front, _, rfl, ⟨hfront, hfits⟩, rest, rfl, h⟩
    have hrest : '\n' ∉ rest := fun hmem => hline (by simp [hmem])
    exact ⟨front, _, Text.split_append hfront rest, hfits, (ih hrest).1 h⟩
  · rintro ⟨q, rest, hsplit, hfits, h⟩
    have hrest : rest ≠ [] := by
      rintro rfl
      exact hne h.eq_nil
    obtain ⟨front, back, rfl, hfront, rfl⟩ :=
      (Text.split_eq_append_iff (List.cons_ne_nil q []) hrest).1 hsplit
    obtain ⟨rfl, hq⟩ := Text.split_eq_singleton_iff.1 hfront
    rw [List.mem_append, List.mem_cons, not_or, not_or] at hline
    exact ⟨front, '/' :: back, rfl, ⟨hq, hfits⟩, back, rfl, (ih hline.2.2).2 h⟩

/-- On a path of one line the tokens of a pattern match what its segments stand for. -/
theorem matches_tokensOf_join_iff (hne : ps ≠ []) (hps : ∀ p ∈ ps, IsPlain p)
    (hline : '\n' ∉ cs) :
    Matches (tokensOf (Text.join '/' ps)) cs ↔ PathFits ps (Text.split '/' cs) := by
  -- By induction on the segments of the pattern: the first one takes a front of the path away, and
  -- the others match whatever is left of it.
  induction ps generalizing cs with
  | nil => exact absurd rfl hne
  | cons p ps ih =>
    have hp : IsPlain p := hps p List.mem_cons_self
    by_cases hnil : ps = []
    · subst hnil
      exact matches_last_iff hp hline
    · have ih' : ∀ {cs}, '\n' ∉ cs →
          (Matches (tokensOf (Text.join '/' ps)) cs ↔ PathFits ps (Text.split '/' cs)) :=
        fun h => ih hnil (fun q hq => hps q (List.mem_cons_of_mem _ hq)) h
      rw [Text.join_cons_of_ne_nil '/' p hnil]
      by_cases hstars : p = stars
      · rw [hstars]
        exact matches_places_iff hnil hline ih'
      · have hinfix : ¬stars <:+: p := fun h => hstars (hp.2 h)
        rw [tokensOf_append hinfix (by simp), tokensOf_cons (by decide)]
        exact matches_segment_iff hp.1 hstars hnil hline ih'

/-- What is read from a pattern are its tokens. -/
theorem tokens_of_ofText {pattern : String} {g : Glob} (h : ofText pattern = .ok g) :
    g.tokens = tokensOf (Text.trimStart '/' pattern.toList) := by
  by_cases hfits : fits (tokensOf (Text.trimStart '/' pattern.toList)) = true
  · rw [ofText, if_pos hfits] at h
    rw [← Except.ok.inj h]
  · rw [ofText, if_neg hfits] at h
    cases h

/-- Every pattern that is not too long can be read. If several stars after each other are `**`
between slashes only, then it matches the paths of one line whose segments are, in order, what its
segments stand for, where all slashes at the start are left out of the pattern and of the path. -/
theorem isMatch_iff_pathFits (pattern path : String)
    (hstars : ∀ p ∈ Text.split '/' (pattern.toList.dropWhile (· == '/')), stars <:+: p → p = stars)
    (hline : '\n' ∉ path.toList) :
    (fits (tokensOf (pattern.toList.dropWhile (· == '/'))) = true → ∃ g, ofText pattern = .ok g) ∧
      ∀ g, ofText pattern = .ok g →
        (g.isMatch path = true ↔
          PathFits (Text.split '/' (pattern.toList.dropWhile (· == '/')))
            (Text.split '/' (path.toList.dropWhile (· == '/')))) := by
  have htrim : ∀ cs : List Char, cs.dropWhile (· == '/') = Text.trimStart '/' cs := fun _ => rfl
  simp only [htrim] at hstars ⊢
  refine ⟨fun hfits => ⟨_, if_pos hfits⟩, fun g hg => ?_⟩
  have htokens : g.tokens = tokensOf (Text.trimStart '/' pattern.toList) := tokens_of_ofText hg
  have hplain : ∀ p ∈ Text.split '/' (Text.trimStart '/' pattern.toList), IsPlain p :=
    fun p hp => ⟨Text.not_mem_of_mem_split hp, hstars p hp⟩
  have hline' : '\n' ∉ Text.trimStart '/' path.toList :=
    fun hmem => hline ((List.dropWhile_suffix _).subset hmem)
  rw [isMatch, htokens, accepts_iff_matches,
    ← matches_tokensOf_join_iff (Text.split_ne_nil '/' _) hplain hline', Text.join_split]

/-- `**` takes two folders away, and the name of the file has one character for `?`. How many
slashes the pattern and the path start with makes no difference. -/
theorem isMatch_iff_pathFits_of_scripts :
    let pattern := "//scripts/**/t?st_*.py"
    ∃ g, Glob.ofText pattern = .ok g ∧
      (∀ path ∈ ["scripts/a/b/test_x.py", "///scripts/a/b/test_x.py"], g.isMatch path = true) ∧
      PathFits ["scripts".toList, stars, "t?st_*.py".toList]
        ["scripts".toList, ['a'], ['b'], "test_x.py".toList] := by
  intro pattern
  have hpieces : Text.split '/' (pattern.toList.dropWhile (· == '/')) =
      ["scripts".toList, stars, "t?st_*.py".toList] := by
    decide +kernel
  have hstars : ∀ p ∈ Text.split '/' (pattern.toList.dropWhile (· == '/')),
      stars <:+: p → p = stars := by
    decide +kernel
  obtain ⟨hread, -⟩ := isMatch_iff_pathFits pattern "" hstars (by decide)
  obtain ⟨g, hg⟩ := hread (by decide +kernel)
  have hfits : PathFits ["scripts".toList, stars, "t?st_*.py".toList]
      ["scripts".toList, ['a'], ['b'], "test_x.py".toList] := by
    have hmatch : (Glob.ofText pattern).toOption.map (·.isMatch "scripts/a/b/test_x.py") =
        some true := by
      decide +kernel
    rw [hg] at hmatch
    have hmeaning := (isMatch_iff_pathFits pattern "scripts/a/b/test_x.py" hstars
      (by decide +kernel)).2 g hg
    rw [hpieces] at hmeaning
    exact hmeaning.1 (Option.some.inj hmatch)
  refine ⟨g, hg, fun path hpath => ?_, hfits⟩
  have hsplit : Text.split '/' (path.toList.dropWhile (· == '/')) =
      ["scripts".toList, ['a'], ['b'], "test_x.py".toList] := by
    revert path
    decide +kernel
  have hline : '\n' ∉ path.toList := by
    revert path
    decide +kernel
  have hmeaning := (isMatch_iff_pathFits pattern path hstars hline).2 g hg
  rw [hpieces, hsplit] at hmeaning
  exact hmeaning.2 hfits

end Depot.Glob
