import Depot.Glob

/-!
# What tokens match

A token stands for certain texts (`Token.StandsFor`), and tokens one after the other match a text
that falls into texts that they stand for (`Matches`). The columns that patterns are matched by tell
of each suffix of a path whether the tokens from one on match it: each column does if the next one
does (`tells_column`), so that a pattern accepts what its tokens match (`accepts_iff_matches`).
-/

namespace Depot.Glob

/-! ## Meaning -/

/-- The texts that a token stands for. -/
def Token.StandsFor : Token → List Char → Prop
  | .literal c, cs => cs = [c]
  | .one, cs => ∃ c, c ≠ '/' ∧ cs = [c]
  | .many, cs => '/' ∉ cs
  | .anything, cs => '\n' ∉ cs
  | .places, cs => cs = [] ∨ ∃ run, '\n' ∉ run ∧ cs = run ++ ['/']

/-- A text begins with one that a token stands for, and goes on with one of a kind. -/
def Token.Leads (t : Token) (p : List Char → Prop) (cs : List Char) : Prop :=
  ∃ front rest, cs = front ++ rest ∧ t.StandsFor front ∧ p rest

/-- A text falls into texts that tokens stand for, one after the other. -/
def Matches : List Token → List Char → Prop
  | [], cs => cs = []
  | t :: ts, cs => t.Leads (Matches ts) cs

variable {p q : List Char → Prop} {c : Char} {cs : List Char} {t : Token} {ts us : List Token}
  {ok : Char → Bool} {column after : List Bool}

theorem matches_append :
    Matches (ts ++ us) cs ↔
      ∃ front back, cs = front ++ back ∧ Matches ts front ∧ Matches us back := by
  induction ts generalizing cs with
  | nil =>
    constructor
    · intro h
      exact ⟨[], cs, rfl, rfl, h⟩
    · rintro ⟨_, back, rfl, rfl, h⟩
      exact h
  | cons t ts ih =>
    simp only [List.cons_append, Matches, Token.Leads]
    constructor
    · rintro ⟨front, rest, rfl, ht, hrest⟩
      obtain ⟨middle, back, rfl, hts, hus⟩ := ih.1 hrest
      exact ⟨front ++ middle, back, (List.append_assoc ..).symm, ⟨front, middle, rfl, ht, hts⟩, hus⟩
    · rintro ⟨_, back, rfl, ⟨front, middle, rfl, ht, hts⟩, hus⟩
      exact ⟨front, middle ++ back, List.append_assoc .., ht, ih.2 ⟨middle, back, rfl, hts, hus⟩⟩

/-! ## Character by character -/

theorem leads_literal_iff {d : Char} :
    Token.Leads (.literal d) p cs ↔ ∃ rest, cs = d :: rest ∧ p rest := by
  constructor
  · rintro ⟨_, rest, rfl, rfl, hrest⟩
    exact ⟨rest, rfl, hrest⟩
  · rintro ⟨rest, rfl, hrest⟩
    exact ⟨[d], rest, rfl, rfl, hrest⟩

theorem leads_literal_cons {d : Char} :
    Token.Leads (.literal d) p (c :: cs) ↔ c = d ∧ p cs := by
  rw [leads_literal_iff]
  constructor
  · rintro ⟨rest, ⟨rfl, rfl⟩, hrest⟩
    exact ⟨rfl, hrest⟩
  · rintro ⟨rfl, hrest⟩
    exact ⟨cs, rfl, hrest⟩

/-- A text is a run of characters, and a rest of a kind. -/
def RunThen (ok : Char → Bool) (p : List Char → Prop) (cs : List Char) : Prop :=
  ∃ run rest, cs = run ++ rest ∧ (∀ c ∈ run, ok c = true) ∧ p rest

theorem runThen_nil : RunThen ok p [] ↔ p [] := by
  constructor
  · rintro ⟨run, rest, hcs, -, hrest⟩
    obtain ⟨rfl, rfl⟩ := List.append_eq_nil_iff.1 hcs.symm
    exact hrest
  · intro h
    exact ⟨[], [], rfl, by simp, h⟩

theorem runThen_cons :
    RunThen ok p (c :: cs) ↔ p (c :: cs) ∨ ok c = true ∧ RunThen ok p cs := by
  constructor
  · rintro ⟨run, rest, hcs, hrun, hrest⟩
    cases run with
    | nil => exact .inl (hcs ▸ hrest)
    | cons d run =>
      obtain ⟨rfl, rfl⟩ := List.cons.inj hcs
      have hrun' : ∀ d ∈ run, ok d = true := fun d hd => hrun d (List.mem_cons_of_mem _ hd)
      exact .inr ⟨hrun c List.mem_cons_self, run, rest, rfl, hrun', hrest⟩
  · rintro (h | ⟨hc, run, rest, rfl, hrun, hrest⟩)
    · exact ⟨[], c :: cs, rfl, by simp, h⟩
    · exact ⟨c :: run, rest, rfl, by simpa [hc] using hrun, hrest⟩

/-- A run of anything but one character is a text without it. -/
theorem forall_bne_iff {d : Char} : (∀ c ∈ cs, (c != d) = true) ↔ d ∉ cs := by
  constructor
  · intro h hd
    simpa using h d hd
  · rintro h c hc
    rw [bne_iff_ne]
    rintro rfl
    exact h hc

theorem leads_many_iff : Token.Leads .many p cs ↔ RunThen (· != '/') p cs := by
  simp only [Token.Leads, Token.StandsFor, RunThen, forall_bne_iff]

theorem leads_anything_iff : Token.Leads .anything p cs ↔ RunThen (· != '\n') p cs := by
  simp only [Token.Leads, Token.StandsFor, RunThen, forall_bne_iff]

/-- `**/` is nothing, or what `**` is with a slash behind it. -/
theorem leads_places_iff :
    Token.Leads .places p cs ↔ p cs ∨ RunThen (· != '\n') (Token.Leads (.literal '/') p) cs := by
  simp only [RunThen, forall_bne_iff, leads_literal_iff]
  constructor
  · rintro ⟨_, rest, rfl, rfl | ⟨run, hrun, rfl⟩, hrest⟩
    · exact .inl hrest
    · exact .inr ⟨run, '/' :: rest, List.append_assoc .., hrun, rest, rfl, hrest⟩
  · rintro (h | ⟨run, _, rfl, hrun, rest, rfl, hrest⟩)
    · exact ⟨[], cs, rfl, .inl rfl, h⟩
    · exact ⟨run ++ ['/'], rest, by simp, .inr ⟨run, hrun, rfl⟩, hrest⟩

/-! ## Columns -/

/-- A column tells of each suffix of a text whether it is of a kind. -/
def Tells (p : List Char → Prop) : List Char → List Bool → Prop
  | [], [here] => here = true ↔ p []
  | c :: cs, here :: after => (here = true ↔ p (c :: cs)) ∧ Tells p cs after
  | _, _ => False

theorem headD_of_tells (h : Tells p cs column) : column.headD false = true ↔ p cs := by
  cases cs with
  | nil =>
    match column, h with
    | [here], h => exact h
  | cons c cs =>
    match column, h with
    | here :: after, h => exact h.1

theorem tells_congr (hpq : ∀ cs, p cs ↔ q cs) (h : Tells p cs column) : Tells q cs column := by
  have heq : p = q := funext fun cs => propext (hpq cs)
  rwa [← heq]

theorem tells_endColumn (cs : List Char) : Tells (· = []) cs (endColumn cs) := by
  induction cs with
  | nil => simp [endColumn, Tells]
  | cons c cs ih => exact ⟨by simp, ih⟩

theorem tells_oneColumn (h : Tells p cs after) :
    Tells (fun cs => ∃ c rest, cs = c :: rest ∧ ok c = true ∧ p rest) cs
      (oneColumn ok cs after) := by
  induction cs generalizing after with
  | nil => simp [oneColumn, Tells]
  | cons c cs ih =>
    match after, h with
    | here :: after, ⟨_, h⟩ =>
      refine ⟨?_, ih h⟩
      rw [Bool.and_eq_true, headD_of_tells h]
      constructor
      · rintro ⟨hc, hrest⟩
        exact ⟨c, cs, rfl, hc, hrest⟩
      · rintro ⟨d, rest, ⟨rfl, rfl⟩, hc, hrest⟩
        exact ⟨hc, hrest⟩

theorem tells_runColumn (h : Tells p cs after) :
    Tells (RunThen ok p) cs (runColumn ok cs after) := by
  -- A run ends here, or its first character is taken and the rest of the column tells.
  induction cs generalizing after with
  | nil =>
    match after, h with
    | [here], h => exact h.trans runThen_nil.symm
  | cons c cs ih =>
    match after, h with
    | here :: after, ⟨hhere, h⟩ =>
      refine ⟨?_, ih h⟩
      rw [Bool.or_eq_true, Bool.and_eq_true, headD_of_tells (ih h), hhere, runThen_cons]

theorem tells_slashColumn (h : Tells p cs after) :
    Tells (RunThen (· != '\n') (Token.Leads (.literal '/') p)) cs (slashColumn cs after) := by
  induction cs generalizing after with
  | nil => simp [slashColumn, Tells, runThen_nil, leads_literal_iff]
  | cons c cs ih =>
    match after, h with
    | here :: after, ⟨_, h⟩ =>
      refine ⟨?_, ih h⟩
      rw [Bool.or_eq_true, Bool.and_eq_true, Bool.and_eq_true, headD_of_tells h,
        headD_of_tells (ih h), runThen_cons, leads_literal_cons, beq_iff_eq]

theorem tells_or {other : List Bool} (hp : Tells p cs column) (hq : Tells q cs other) :
    Tells (fun cs => p cs ∨ q cs) cs (List.zipWith (· || ·) column other) := by
  induction cs generalizing column other with
  | nil =>
    match column, other, hp, hq with
    | [a], [b], hp, hq => simp_all [Tells]
  | cons c cs ih =>
    match column, other, hp, hq with
    | a :: column, b :: other, ⟨ha, hp⟩, ⟨hb, hq⟩ =>
      refine ⟨?_, ih hp hq⟩
      rw [Bool.or_eq_true, ha, hb]

/-- The column of a token tells what the token leads to, if the next column tells of the rest. -/
theorem tells_column (t : Token) (h : Tells p cs after) :
    Tells (t.Leads p) cs (t.column cs after) := by
  cases t with
  | literal d =>
    refine tells_congr (fun cs => ?_) (tells_oneColumn h)
    rw [leads_literal_iff]
    constructor
    · rintro ⟨c, rest, rfl, hc, hrest⟩
      exact ⟨rest, by rw [beq_iff_eq.1 hc], hrest⟩
    · rintro ⟨rest, rfl, hrest⟩
      exact ⟨d, rest, rfl, beq_self_eq_true d, hrest⟩
  | one =>
    refine tells_congr (fun cs => ?_) (tells_oneColumn h)
    constructor
    · rintro ⟨c, rest, rfl, hc, hrest⟩
      exact ⟨[c], rest, rfl, ⟨c, bne_iff_ne.1 hc, rfl⟩, hrest⟩
    · rintro ⟨_, rest, rfl, ⟨c, hc, rfl⟩, hrest⟩
      exact ⟨c, rest, rfl, bne_iff_ne.2 hc, hrest⟩
  | many => exact tells_congr (fun _ => leads_many_iff.symm) (tells_runColumn h)
  | anything => exact tells_congr (fun _ => leads_anything_iff.symm) (tells_runColumn h)
  | places =>
    exact tells_congr (fun _ => leads_places_iff.symm) (tells_or h (tells_slashColumn h))

/-! ## Patterns -/

/-- Each column tells of every suffix whether the tokens from one on match it. -/
theorem tells_foldr (ts : List Token) (cs : List Char) :
    Tells (Matches ts) cs (ts.foldr (fun t after => t.column cs after) (endColumn cs)) := by
  -- By induction on the tokens, where the text stays the same: a column is about all its suffixes.
  induction ts with
  | nil => exact tells_endColumn cs
  | cons t ts ih => exact tells_column t ih

theorem accepts_iff_matches : accepts ts cs = true ↔ Matches ts cs :=
  headD_of_tells (tells_foldr ts cs)

end Depot.Glob
