import Mathlib.Data.List.Infix
import Depot.FileName
import Depot.Proofs.Url.Escapes

/-!
# Names below a reference

A name is put below a reference without its tabs and line ends. It is one more segment if something
other than dots is left of it, and does not lead any further down if not (`isBelow_join_iff`).

A part of a file name is put there as one segment, whatever characters it is made of: nothing is
dropped from it, and it neither stays nor goes up (`segments_join`). The segments of a reference
thus tell which names lead there from the root (`segments_ofNames`), and comparing such references,
for equality or for one lying below the other, is comparing lists of names (`ofNames_inj`,
`startsWith_ofNames`).
-/

namespace Depot

open Url

/-- A name that is one segment of a path, once it is encoded. -/
def IsPart (name : String) : Prop :=
  isNamePart name.toList = true

instance (name : String) : Decidable (IsPart name) :=
  inferInstanceAs (Decidable (_ = true))

/-- A name as it is written in a path. -/
def Uri.written (name : String) : String :=
  String.ofList (Percent.encode Percent.inName name.toList)

/-- What is left of a name that is put below a path. -/
def Uri.bare (name : String) : String :=
  String.ofList (Percent.unbroken name.toList)

/-- What is left of a name is neither nothing nor the place itself nor the place above. -/
def LeadsDown (name : String) : Prop :=
  Uri.bare name ≠ "" ∧ Uri.bare name ≠ "." ∧ Uri.bare name ≠ ".."

instance (name : String) : Decidable (LeadsDown name) :=
  inferInstanceAs (Decidable (_ ∧ _))

/-! ## Parts -/

theorem isPart_iff {name : String} : IsPart name ↔
    name ≠ "" ∧ name ≠ "." ∧ name ≠ ".." ∧ ∀ c ∈ name.toList, c ≠ '\\' ∧ isControl c = false := by
  have hnil : name.toList = [] ↔ name = "" := by rw [← String.toList_inj]; rfl
  have hdot : name.toList = ['.'] ↔ name = "." := by rw [← String.toList_inj]; rfl
  have hdots : name.toList = ['.', '.'] ↔ name = ".." := by rw [← String.toList_inj]; rfl
  simp [IsPart, isNamePart, hnil, hdot, hdots, and_assoc]

theorem unbroken_of_isPart {name : String} (h : IsPart name) :
    Percent.unbroken name.toList = name.toList := by
  apply List.filter_eq_self.2
  intro c hc
  have hcontrol := ((isPart_iff.1 h).2.2.2 c hc).2
  -- Tabs and line ends are control characters.
  have hb : Percent.isBreak c = false := by
    by_contra hb
    simp only [Percent.isBreak, Bool.not_eq_false, Bool.or_eq_true, beq_iff_eq] at hb
    rcases hb with (rfl | rfl) | rfl <;> exact absurd hcontrol (by decide)
  rw [hb]; rfl

theorem Uri.written_injective {a b : String} (h : written a = written b) : a = b := by
  have hchars := congrArg String.toList h
  simp only [written, String.toList_ofList] at hchars
  exact String.toList_inj.1 (Percent.encode_injective hchars)

theorem Uri.written_ne_empty {name : String} (h : name ≠ "") : written name ≠ "" := by
  intro e
  exact h (written_injective (e.trans rfl))

/-- All of a part is left. -/
theorem bare_of_isPart {name : String} (h : IsPart name) : Uri.bare name = name := by
  rw [Uri.bare, unbroken_of_isPart h, String.ofList_toList]

theorem leadsDown_of_isPart {name : String} (h : IsPart name) : LeadsDown name := by
  obtain ⟨hne, hdot, hdots, -⟩ := isPart_iff.1 h
  unfold LeadsDown
  rw [bare_of_isPart h]
  exact ⟨hne, hdot, hdots⟩

/-! ## Paths -/

namespace Url

/-- A name that leads down is neither the place itself nor the place above. -/
theorem Piece.ofName_of_leadsDown {name : String} (h : LeadsDown name) :
    ∃ s : Segment, Piece.ofName (Percent.unbroken name.toList) = .name s ∧
      s.text = Uri.written (Uri.bare name) := by
  obtain ⟨-, hdot, hdots⟩ := h
  have here : ¬isHere (Percent.encode Percent.inName (Percent.unbroken name.toList)) = true := by
    intro e
    exact hdot (congrArg String.ofList (Percent.eq_dot_of_isHere e))
  have above : ¬isAbove (Percent.encode Percent.inName (Percent.unbroken name.toList)) = true := by
    intro e
    exact hdots (congrArg String.ofList (Percent.eq_dots_of_isAbove e))
  unfold Piece.ofName Piece.of
  rw [dif_neg here, dif_neg above]
  refine ⟨_, rfl, ?_⟩
  simp only [Uri.written, Uri.bare, String.toList_ofList]

theorem Segment.ne_empty_of_written {s : Segment} {name : String} (hne : name ≠ "")
    (htext : s.text = Uri.written name) : s ≠ .empty := by
  rintro rfl
  exact Uri.written_ne_empty hne htext.symm

namespace Path

/-- The segments of a path that are not empty, as they are written. -/
def texts (p : Path) : List String :=
  (p.map Segment.text).filter (· ≠ "")

theorem texts_append (p q : Path) : (p ++ q).texts = p.texts ++ q.texts := by
  simp [texts]

/-- Only an empty segment is taken from the end of a path. -/
theorem texts_trimEnd (p : Path) : p.trimEnd.texts = p.texts := by
  unfold trimEnd
  split
  · next s hs =>
    split
    · next h =>
      have hp : p.dropLast ++ [s] = p := List.dropLast_append_getLast? s hs
      conv_rhs => rw [← hp, texts_append, h.1]
      simp [texts, Segment.empty]
    · rfl
  · rfl

/-- A name that leads down from a path is the last segment then. -/
theorem appendName_of_leadsDown {name : String} (h : LeadsDown name) (p : Path) :
    ∃ s : Segment, s.text = Uri.written (Uri.bare name) ∧
      p.appendName name = (if p = [.empty] then [] else p) ++ [s] := by
  obtain ⟨s, hs, htext⟩ := Piece.ofName_of_leadsDown h
  have hdots : ¬(name = "." ∨ name = "..") := by
    rintro (rfl | rfl)
    · exact h.2.1 rfl
    · exact h.2.2 rfl
  refine ⟨s, htext, ?_⟩
  unfold appendName
  rw [if_neg hdots, hs, close]

/-- The root alone is a path with one empty segment, which the first name takes the place of. -/
theorem texts_unopened (p : Path) : texts (if p = [.empty] then [] else p) = p.texts := by
  split
  · next hp => rw [hp]; rfl
  · rfl

theorem texts_appendName {name : String} (h : LeadsDown name) (p : Path) :
    (p.appendName name).texts = p.texts ++ [Uri.written (Uri.bare name)] := by
  obtain ⟨s, htext, hp⟩ := appendName_of_leadsDown h p
  have hne : Uri.written (Uri.bare name) ≠ "" := Uri.written_ne_empty h.1
  have hlast : texts [s] = [Uri.written (Uri.bare name)] := by simp [texts, htext, hne]
  rw [hp, texts_append, hlast, texts_unopened]

/-- To go up is to lose a segment or to stay. -/
theorem length_texts_up_le (p : Path) : p.up.texts.length ≤ p.texts.length := by
  unfold up
  split
  · split
    · exact Nat.le_refl _
    · exact (((List.dropLast_sublist p).map Segment.text).filter _).length_le
  · exact Nat.le_refl _

/-- A name that does not lead down adds no segment, or an empty one. -/
theorem length_texts_appendName_le {name : String} (h : ¬LeadsDown name) (p : Path) :
    (p.appendName name).texts.length ≤ p.texts.length := by
  unfold appendName
  split
  · exact Nat.le_refl _
  · rw [← texts_unopened p]
    generalize (if p = [.empty] then [] else p) = q
    have hempty : texts [.empty] = [] := rfl
    -- What is left of the name is nothing, one dot or two.
    have hbare : Percent.unbroken name.toList = [] ∨ Percent.unbroken name.toList = ['.'] ∨
        Percent.unbroken name.toList = ['.', '.'] := by
      simp only [LeadsDown, Uri.bare, ← String.toList_inj, String.toList_ofList, not_and_or,
        not_not] at h
      exact h
    rcases hbare with hb | hb | hb <;> rw [hb]
    · have hpiece : Piece.ofName [] = .name .empty := by decide
      rw [hpiece, close, texts_append, hempty, List.append_nil]
    · have hpiece : Piece.ofName ['.'] = .here := by decide
      rw [hpiece, close, texts_append, hempty, List.append_nil]
    · have hpiece : Piece.ofName ['.', '.'] = .above := by decide
      rw [hpiece, close, texts_append, hempty, List.append_nil]
      exact length_texts_up_le q

/-- A path that ends in a name is not open at its end. -/
theorem trimEnd_appendName {name : String} (h : LeadsDown name) (p : Path) :
    (p.appendName name).trimEnd = p.appendName name := by
  obtain ⟨s, htext, hp⟩ := appendName_of_leadsDown h p
  have hne : s ≠ .empty := Segment.ne_empty_of_written h.1 htext
  rw [hp, trimEnd]
  simp [hne]

/-- Parts are put below a path in one go or in two. -/
theorem append_append {names others : List String} (hne : names ≠ [])
    (h : ∀ name ∈ names, IsPart name) (p : Path) :
    (p.append names).append others = p.append (names ++ others) := by
  have hlast := List.dropLast_concat_getLast hne
  -- The second time there is nothing to trim, because the path ends in a name.
  have htrim : (p.append names).trimEnd = p.append names := by
    unfold append
    rw [← hlast, List.foldl_concat]
    exact trimEnd_appendName (leadsDown_of_isPart (h _ (List.getLast_mem hne))) _
  rw [append, htrim]
  simp only [append, List.foldl_append]

/-- Parts that are put below a path are its last segments, after what was there before. The empty
segment of the root alone is not kept: the first part takes its place. -/
theorem exists_foldl_appendName {names : List String} (hne : names ≠ [])
    (h : ∀ name ∈ names, IsPart name) (p : Path) :
    ∃ q : Path, q.map Segment.text = names.map Uri.written ∧
      names.foldl appendName p = (if p = [.empty] then [] else p) ++ q := by
  induction names generalizing p with
  | nil => exact absurd rfl hne
  | cons name names ih =>
    have hpart : IsPart name := h name List.mem_cons_self
    obtain ⟨s, htext, hname⟩ := appendName_of_leadsDown (leadsDown_of_isPart hpart) p
    rw [bare_of_isPart hpart] at htext
    cases names with
    | nil => exact ⟨[s], congrArg ([·]) htext, hname⟩
    | cons next names =>
      obtain ⟨q, htexts, hq⟩ := ih (List.cons_ne_nil next names)
        (fun n hn => h n (List.mem_cons_of_mem _ hn)) (p.appendName name)
      -- What ends in a part is not the root alone.
      have hopen : p.appendName name ≠ [.empty] := by
        intro e
        have hlast := congrArg List.getLast? (hname.symm.trans e)
        rw [List.getLast?_concat] at hlast
        exact Segment.ne_empty_of_written (isPart_iff.1 hpart).1 htext (Option.some.inj hlast)
      refine ⟨s :: q, ?_, ?_⟩
      · rw [List.map_cons, List.map_cons (a := name), htext, htexts]
      · rw [List.foldl_cons, hq, if_neg hopen, hname, List.append_assoc, List.singleton_append]

theorem append_ne_nil {names : List String} (hne : names ≠ []) (h : ∀ name ∈ names, IsPart name)
    (p : Path) : p.append names ≠ [] := by
  obtain ⟨q, htexts, hq⟩ := exists_foldl_appendName hne h p.trimEnd
  have hq' : q ≠ [] := by
    rintro rfl
    exact hne (List.map_eq_nil_iff.1 htexts.symm)
  rw [append, hq]
  exact List.append_ne_nil_of_right_ne_nil _ hq'

/-- Trimming leaves the first two segments, or only the first one if an empty one is all that
follows it. -/
theorem trimEnd_cons_cons (s t : Segment) (rest : Path) :
    (trimEnd (s :: t :: rest) = [s] ∧ t = .empty ∧ rest = []) ∨
      ((∃ r, trimEnd (s :: t :: rest) = s :: t :: r) ∧ ¬(t = .empty ∧ rest = [])) := by
  cases rest with
  | nil =>
    by_cases ht : t = .empty
    · exact Or.inl ⟨by simp [trimEnd, ht], ht, rfl⟩
    · exact Or.inr ⟨⟨[], by simp [trimEnd, ht]⟩, fun h => ht h.1⟩
  | cons r rest =>
    refine Or.inr ⟨?_, fun h => List.cons_ne_nil _ _ h.2⟩
    unfold trimEnd
    split
    · split
      · exact ⟨(r :: rest).dropLast, rfl⟩
      · exact ⟨_, rfl⟩
    · exact ⟨_, rfl⟩

/-- If parts are put below a path that starts with two slashes, it still does, unless these slashes
are all that there is. -/
theorem rooted_append_iff {names : List String} (hne : names ≠ [])
    (h : ∀ name ∈ names, IsPart name) {p : Path} (hp : ¬p.Rooted) :
    (p.append names).Rooted ↔ p = [.empty, .empty] := by
  obtain ⟨q, htexts, hq⟩ := exists_foldl_appendName hne h p.trimEnd
  rw [append, hq]
  match p, hp with
  | [], hp => exact absurd trivial hp
  | [_], hp => exact absurd trivial hp
  | s :: t :: rest, hp =>
    obtain rfl : s = .empty := not_not.1 hp
    rcases trimEnd_cons_cons .empty t rest with ⟨htrim, rfl, rfl⟩ | ⟨⟨r, htrim⟩, hmore⟩
    · -- The first part takes the place of the empty segment, and parts are not empty.
      rw [htrim, if_pos rfl, List.nil_append]
      refine iff_of_true ?_ rfl
      obtain ⟨name, others, rfl⟩ := List.exists_cons_of_ne_nil hne
      obtain ⟨first, q, rfl, hfirst, -⟩ := List.map_eq_cons_iff.1 (htexts.trans List.map_cons)
      have hname : name ≠ "" := (isPart_iff.1 (h name List.mem_cons_self)).1
      exact rooted_cons (Segment.ne_empty_of_written hname hfirst) q
    · rw [htrim, if_neg (by simp)]
      refine iff_of_false (fun hrooted => hrooted rfl) fun e => hmore ?_
      simpa using e

/-- Every name that leads down from a path is one more segment of it. -/
theorem texts_append_of_leadsDown {names : List String} (h : ∀ name ∈ names, LeadsDown name)
    (p : Path) :
    (p.append names).texts = p.texts ++ names.map fun name => Uri.written (Uri.bare name) := by
  unfold append
  rw [← texts_trimEnd p]
  generalize p.trimEnd = q
  induction names generalizing q with
  | nil => simp
  | cons name names ih =>
    rw [List.foldl_cons, ih (fun n hn => h n (List.mem_cons_of_mem _ hn)),
      texts_appendName (h name List.mem_cons_self), List.append_assoc]
    rfl

/-- Every part that is put below a path is one more segment of it, with nothing dropped. -/
theorem texts_append_names {names : List String} (h : ∀ name ∈ names, IsPart name) (p : Path) :
    (p.append names).texts = p.texts ++ names.map Uri.written := by
  have hbare : (names.map fun name => Uri.written (Uri.bare name)) = names.map Uri.written := by
    apply List.map_congr_left
    intro name hname
    rw [bare_of_isPart (h name hname)]
  rw [texts_append_of_leadsDown fun name hname => leadsDown_of_isPart (h name hname), hbare]

end Path

end Url

/-! ## References -/

namespace Uri

variable {names others : List String}

/-- Every part that is put below a reference is one more segment of it. -/
theorem segments_join (h : ∀ name ∈ names, IsPart name) (u : Uri) :
    (u.join names).segments = u.segments ++ names.map written :=
  Path.texts_append_names h u.path

theorem segments_join_of_leadsDown (h : ∀ name ∈ names, LeadsDown name) (u : Uri) :
    (u.join names).segments = u.segments ++ names.map fun name => written (bare name) :=
  Path.texts_append_of_leadsDown h u.path

theorem segments_ofNames (h : ∀ name ∈ names, IsPart name) :
    (ofNames names).segments = names.map written :=
  segments_join h top

theorem map_written_injective (h : names.map written = others.map written) : names = others :=
  List.map_injective_iff.2 (fun _ _ => written_injective) h

/-- Different ways from the root lead to different references. -/
theorem ofNames_inj (h : ∀ name ∈ names, IsPart name) (ho : ∀ name ∈ others, IsPart name) :
    ofNames names = ofNames others ↔ names = others := by
  constructor
  · intro e
    have hs := congrArg segments e
    rw [segments_ofNames h, segments_ofNames ho] at hs
    exact map_written_injective hs
  · intro e
    rw [e]

theorem join_ofNames (hne : names ≠ []) (h : ∀ name ∈ names, IsPart name) :
    (ofNames names).join others = ofNames (names ++ others) := by
  have hpath : (top.path.append names).append others = top.path.append (names ++ others) :=
    Path.append_append hne h top.path
  simp only [ofNames, join, hpath]

/-- One reference lies below another if the way there goes through it. -/
theorem startsWith_ofNames (h : ∀ name ∈ names, IsPart name)
    (ho : ∀ name ∈ others, IsPart name) :
    (ofNames names).startsWith (ofNames others) = true ↔ others <+: names := by
  unfold startsWith
  rw [segments_ofNames h, segments_ofNames ho, List.isPrefixOf_iff_prefix]
  constructor
  · -- What the encoded names begin with is the encoding of what the names begin with.
    rintro ⟨rest, hrest⟩
    obtain ⟨front, back, hsplit, hfront, -⟩ := List.map_eq_append_iff.1 hrest.symm
    rw [← map_written_injective hfront, hsplit]
    exact List.prefix_append front back
  · intro hprefix
    exact hprefix.map written

/-! ## Lying below -/

/-- A reference lies below another one: it goes through it, and has at least one more segment. -/
def IsBelow (u base : Uri) : Prop :=
  u.startsWith base = true ∧ base.segments.length < u.segments.length

instance (u base : Uri) : Decidable (u.IsBelow base) :=
  inferInstanceAs (Decidable (_ ∧ _))

theorem isBelow_iff_relativeTo {u base : Uri} :
    u.IsBelow base ↔ ∃ name names, u.relativeTo base = some (name :: names) := by
  unfold IsBelow relativeTo
  by_cases h : u.startsWith base = true
  · simp only [if_pos h, and_iff_right h, Option.some.injEq, List.map_eq_cons_iff]
    constructor
    · intro hlt
      obtain ⟨segment, rest, hrest⟩ := List.exists_cons_of_length_pos
        (l := u.segments.drop base.segments.length) (by rw [List.length_drop]; omega)
      exact ⟨_, _, segment, rest, hrest, rfl, rfl⟩
    · rintro ⟨-, -, segment, rest, hrest, -, -⟩
      have hlength := congrArg List.length hrest
      rw [List.length_drop, List.length_cons] at hlength
      omega
  · simp [h]

theorem startsWith_of_segments {u base : Uri} {rest : List String}
    (h : u.segments = base.segments ++ rest) : u.startsWith base = true := by
  rw [startsWith, h, List.isPrefixOf_iff_prefix]
  exact List.prefix_append _ _

theorem startsWith_trans {u v w : Uri} (h : u.startsWith v = true) (h' : v.startsWith w = true) :
    u.startsWith w = true := by
  rw [startsWith, List.isPrefixOf_iff_prefix] at *
  exact h'.trans h

theorem IsBelow.trans {u v w : Uri} (h : u.IsBelow v) (h' : v.IsBelow w) : u.IsBelow w :=
  ⟨startsWith_trans h.1 h'.1, h'.2.trans h.2⟩

/-- Lying below is a matter of the segments. -/
theorem isBelow_congr {u u' base base' : Uri} (hu : u.segments = u'.segments)
    (hbase : base.segments = base'.segments) : u.IsBelow base ↔ u'.IsBelow base' := by
  simp only [IsBelow, startsWith, hu, hbase]

/-- What lies below something has a last segment. -/
theorem exists_fileName?_of_isBelow {u base : Uri} (h : u.IsBelow base) :
    ∃ name, u.fileName? = some name := by
  have hne : u.segments ≠ [] := List.ne_nil_of_length_pos (Nat.zero_lt_of_lt h.2)
  exact ⟨_, by rw [fileName?, List.getLast?_eq_some_getLast hne, Option.map_some]⟩

/-- Names that lead down lead below a reference. -/
theorem isBelow_join (hne : names ≠ []) (h : ∀ name ∈ names, LeadsDown name) (u : Uri) :
    (u.join names).IsBelow u := by
  have hs := segments_join_of_leadsDown h u
  refine ⟨startsWith_of_segments hs, ?_⟩
  rw [hs, List.length_append, List.length_map]
  exact Nat.lt_add_of_pos_right (List.length_pos_iff.2 hne)

/-- One name leads below a reference if and only if something but dots is left of it. -/
theorem isBelow_join_iff {u : Uri} {name : String} :
    (u.join [name]).IsBelow u ↔ LeadsDown name := by
  constructor
  · rintro ⟨-, hlt⟩
    by_contra h
    have hle : (u.join [name]).segments.length ≤ u.segments.length := by
      have hname := Path.length_texts_appendName_le h u.path.trimEnd
      rwa [Path.texts_trimEnd] at hname
    omega
  · intro h
    exact isBelow_join (List.cons_ne_nil name []) (by simpa using h) u

/-- Every directory on the way to a reference has a name that leads down. -/
def Steady (u : Uri) : Prop :=
  ∀ segment ∈ u.segments.dropLast, LeadsDown (Percent.decode segment)

instance (u : Uri) : Decidable u.Steady :=
  inferInstanceAs (Decidable (∀ segment ∈ u.segments.dropLast, _))

theorem decode_written (name : String) : Percent.decode (written name) = name :=
  Percent.decode_encode name

theorem map_decode_written (names : List String) :
    (names.map written).map Percent.decode = names := by
  induction names with
  | nil => rfl
  | cons name names ih => rw [List.map_cons, List.map_cons, decode_written, ih]

/-- What has been put below a reference is read there as it was put. -/
theorem relativeTo_join (h : ∀ name ∈ names, IsPart name) (u : Uri) :
    (u.join names).relativeTo u = some names := by
  have hsegments := segments_join h u
  rw [relativeTo, if_pos (startsWith_of_segments hsegments), hsegments, List.drop_left,
    map_decode_written]

/-- A way that is made of parts is steady. -/
theorem steady_ofNames (h : ∀ name ∈ names, IsPart name) : (ofNames names).Steady := by
  intro segment hs
  rw [segments_ofNames h] at hs
  obtain ⟨name, hname, rfl⟩ := List.mem_map.1 (List.dropLast_subset _ hs)
  rw [decode_written]
  exact leadsDown_of_isPart (h name hname)

/-- There is a reference with the first segments of another one. -/
theorem exists_segments_eq_take (u : Uri) (n : Nat) :
    ∃ base : Uri, base.segments = u.segments.take n := by
  let path : Path := (u.path.filter fun s => s.text ≠ "").take n
  refine ⟨⟨.slashes, path, none, none, by rintro ⟨⟩⟩, ?_⟩
  have hall : ∀ s ∈ path.map Segment.text, s ≠ "" := by
    intro text htext
    obtain ⟨s, hs, rfl⟩ := List.mem_map.1 htext
    simpa using (List.mem_filter.1 (List.mem_of_mem_take hs)).2
  have hkept : (path.map Segment.text).filter (· ≠ "") = path.map Segment.text := by
    apply List.filter_eq_self.2
    simpa using hall
  show (path.map Segment.text).filter (· ≠ "") = _
  rw [hkept, segments, List.filter_map, List.map_take]
  rfl

/-! ## File names -/

/-- A file name is let in if all its parts are names of segments, and leads through all of them. -/
theorem resolve_eq_ok_iff {base u : Uri} {name : String} :
    base.resolve name = .ok u ↔
      (∀ part ∈ Text.pieces '/' name, IsPart part) ∧ u = base.join (Text.pieces '/' name) := by
  have hall : (Text.split '/' name.toList).all isNamePart = true ↔
      ∀ part ∈ Text.pieces '/' name, IsPart part := by
    simp [Text.pieces, IsPart]
  unfold resolve
  by_cases hempty : name = ""
  · -- The only part of the empty name is empty.
    have hpart : ¬∀ part ∈ Text.pieces '/' name, IsPart part := by
      rw [hempty]
      decide
    simp [hempty, hempty ▸ hpart]
  · rw [if_neg hempty]
    by_cases hparts : ∀ part ∈ Text.pieces '/' name, IsPart part
    · simp only [hall.2 hparts, if_true, Except.ok.injEq, eq_comm, and_iff_right hparts]
    · simp [hall, hparts]

end Uri

end Depot
