import Mathlib.Data.List.TakeWhile
import Depot.Entry.Record
import Depot.Proofs.Except
import Depot.Proofs.Url.Escapes
import Depot.Uri.Order

/-!
# References are read back

A written reference holds nothing that reading would drop or write in another way: no space and no
control character, in every part only characters that the part keeps, and no piece of the path that
is a spelling of dots. Only a `/.` that its path can do without is lost (`Uri.undotted`). So it is
read as the URL that the reference is (`Uri.parse_text_toUrl`) and let in as the reference that it
was written from (`Uri.parse_text`), given that its root is written the way reading finds it
(`Uri.IsWritten`). Everything that is let in as a text is of that kind (`Uri.isWritten_of_parse`),
and so is everything that names lead to from the root.

`Place` says where the lead and the path of a URL that has been read come from.
-/

namespace Depot

open Url

namespace Url

/-! ## Paths -/

theorem Piece.of_congr {cs ds : List Char} (h : cs = ds) (hc : ∀ c ∈ cs, inSegment c = true)
    (hd : ∀ c ∈ ds, inSegment c = true) : Piece.of cs hc = Piece.of ds hd := by
  subst h
  rfl

/-- The text of a segment, as it stands in a written path, means the segment. -/
theorem Piece.ofPath_text (s : Segment) (h : '/' ∉ s.text.toList) :
    Piece.ofPath s.text.toList h = .name s := by
  have hkept : Percent.encode Percent.inPath s.text.toList = s.text.toList :=
    Percent.encode_of_keeps fun c hc => (inPath_of_inSegment (s.kept c hc)).1
  rw [Piece.ofPath, Piece.of_congr hkept _ s.kept, Piece.of_text]

namespace Path

theorem follow_names (q p : Path) : q.follow (p.map Piece.name) = q ++ p := by
  induction p generalizing q with
  | nil => simp [follow]
  | cons s p ih =>
    cases p with
    | nil => rfl
    | cons t p =>
      have hstep : q.follow ((s :: t :: p).map Piece.name) =
          (q ++ [s]).follow ((t :: p).map Piece.name) := rfl
      rw [hstep, ih, List.append_assoc, List.singleton_append]

theorem piecesOf_eq_pmap (cs : List Char) :
    piecesOf cs = (Text.split '/' cs).pmap Piece.ofPath fun _ => Text.not_mem_of_mem_split := by
  rw [List.pmap_eq_map_attach]
  rfl

theorem pmap_ofPath_texts (p : Path) (h : ∀ cs ∈ p.map fun s => s.text.toList, '/' ∉ cs) :
    (p.map fun s => s.text.toList).pmap Piece.ofPath h = p.map Piece.name := by
  induction p with
  | nil => rfl
  | cons s p ih => simp only [List.map_cons, List.pmap_cons, Piece.ofPath_text, ih]

/-- A path is read back from what is written after its first slash. -/
theorem ofText_chars (s : Segment) (p : Path) : ofText (s.text.toList ++ chars p) = s :: p := by
  have hs : '/' ∉ s.text.toList := fun hm => (inPath_of_inSegment (s.kept _ hm)).2 rfl
  have hsplit : Text.split '/' (s.text.toList ++ chars p) =
      (s :: p : Path).map fun s => s.text.toList := split_append_chars hs p
  rw [ofText, piecesOf_eq_pmap]
  simp only [hsplit, pmap_ofPath_texts, follow_names, List.nil_append]

/-- A dot in front of a path leads nowhere. -/
theorem ofText_dot_chars {p : Path} (hp : p ≠ []) : ofText ('.' :: chars p) = p := by
  have hsplit : Text.split '/' ('.' :: chars p) = ['.'] :: p.map fun s => s.text.toList :=
    split_append_chars Uri.not_mem_dot p
  have hhere : Piece.ofPath ['.'] Uri.not_mem_dot = .here := by decide
  rw [ofText, piecesOf_eq_pmap]
  simp only [hsplit, List.pmap_cons, pmap_ofPath_texts, hhere]
  obtain ⟨s, q, rfl⟩ := List.exists_cons_of_ne_nil hp
  exact follow_names [] (s :: q)

theorem follow_ne_nil {pieces : List Piece} (h : pieces ≠ []) (p : Path) :
    p.follow pieces ≠ [] := by
  induction pieces generalizing p with
  | nil => exact absurd rfl h
  | cons piece pieces ih =>
    cases pieces with
    | nil => cases piece <;> simp [follow, close]
    | cons next pieces => exact ih (List.cons_ne_nil _ _) (p.enter piece)

theorem ofText_ne_nil (cs : List Char) : ofText cs ≠ [] := by
  refine follow_ne_nil ?_ []
  intro h
  have hlength := congrArg List.length h
  simp only [piecesOf, List.length_map, List.length_attach, List.length_nil] at hlength
  exact Text.split_ne_nil '/' cs (List.length_eq_zero_iff.1 hlength)

end Path

/-! ## Characters that reading leaves as they are -/

namespace Percent

theorem lt_toNat_of_inSegment {c : Char} (h : inSegment c = true) : 0x20 < c.toNat := by
  have hpath := (inPath_of_inSegment h).1
  simp only [inPath, Bool.and_eq_true] at hpath
  exact lt_toNat_of_inFragment hpath.1

theorem unbroken_of_le_toNat {cs : List Char} (h : ∀ c ∈ cs, 0x20 ≤ c.toNat) :
    unbroken cs = cs := by
  apply List.filter_eq_self.2
  intro c hc
  have hne : ∀ d : Char, d.toNat < 0x20 → c ≠ d := by
    rintro d hd rfl
    exact absurd (h c hc) (by omega)
  simp [isBreak, hne '\t' (by decide), hne '\n' (by decide), hne '\r' (by decide)]

end Percent

theorem trimmed_of_lt_toNat {cs : List Char} (h : ∀ c ∈ cs, 0x20 < c.toNat) :
    trimmed cs = cs := by
  have hdrop : ∀ ds : List Char, (∀ c ∈ ds, 0x20 < c.toNat) →
      ds.dropWhile (fun c => c.toNat ≤ 0x20) = ds := by
    intro ds hds
    refine List.dropWhile_eq_self_iff.2 fun hlength => ?_
    simpa using hds _ (List.getElem_mem hlength)
  simp only [trimmed]
  rw [hdrop cs h, hdrop cs.reverse fun c hc => h c (List.mem_reverse.1 hc), List.reverse_reverse]

/-- An encoded query is its own encoding. -/
theorem map_query_text (q : Option (Encoded Percent.inQuery)) :
    (q.map fun e => e.text.toList).map Encoded.query = q := by
  cases q with
  | none => rfl
  | some q =>
    simp [Encoded.query, Encoded.of, Percent.encode_of_keeps q.kept, String.ofList_toList]

/-- An encoded fragment is its own encoding. -/
theorem map_fragment_text (f : Option (Encoded Percent.inFragment)) :
    (f.map fun e => e.text.toList).map Encoded.fragment = f := by
  cases f with
  | none => rfl
  | some f =>
    simp [Encoded.fragment, Encoded.of, Percent.encode_of_keeps f.kept, String.ofList_toList]

/-! ## What has been read -/

/-- Local files are read by rules of their own. -/
theorem scheme_of_readLocalFile {rest : List Char} {url : Url}
    (h : LocalFile.read rest = .ok url) : url.scheme = "file" := by
  unfold LocalFile.read at h
  dsimp only at h
  split at h
  all_goals try split at h
  -- However many slashes there are, what is left to do is to put the parts together.
  all_goals
    obtain ⟨place, -, hurl⟩ := bind_eq_ok_iff.1 h
    rw [← Except.ok.inj hurl]
    rfl

/-- Addresses of the web are read by the rules of the web. -/
theorem scheme_of_readWeb {name : String} {port : Nat} {rest : List Char} {url : Url}
    (h : Web.read name port rest = .ok url) : url.scheme = name := by
  unfold Web.read at h
  obtain ⟨place, -, hurl⟩ := bind_eq_ok_iff.1 h
  rw [← Except.ok.inj hurl]
  rfl

/-- What stands before the query and the fragment. -/
def body (rest : List Char) : List Char :=
  (Text.cut '?' (Text.cut '#' rest).1).1

/-- Which lead and which hierarchy are read from what stands before the query and the fragment. -/
inductive Place : List Char → Lead → Hierarchy → Prop
  | kept {cs left : List Char} {more : Bool} {a : Authority} {path : Path}
      (named : Authority.read .general (cs.takeWhile (· != '/')) more = .ok (a, left)) :
      Place ('/' :: '/' :: cs) (.authority a) (.rooted path)
  | rooted {cs : List Char} (bare : ∀ ds, cs ≠ '/' :: ds) :
      Place ('/' :: cs) (.of none (.rooted (Path.ofText cs))) (.rooted (Path.ofText cs))
  | rootless {cs : List Char} (bare : ∀ ds, cs ≠ '/' :: ds) :
      Place cs .nothing (.rootless (Encoded.rootless cs))

/-- Without an authority a path from the root has a slash at least, and what it needs before it. -/
theorem Place.lead_of_rooted {cs : List Char} {lead : Lead} {path : Path}
    (h : Place cs lead (.rooted path)) :
    (∃ a, lead = .authority a) ∨ path ≠ [] ∧ lead = .of none (.rooted path) := by
  cases h with
  | kept => exact Or.inl ⟨_, rfl⟩
  | rooted => exact Or.inr ⟨Path.ofText_ne_nil _, rfl⟩

theorem place_of_readGeneral {name : String} {rest : List Char} {url : Url}
    (h : readGeneral name rest = .ok url) :
    url.scheme = name ∧ Place (body rest) url.lead url.hierarchy := by
  unfold readGeneral at h
  dsimp only at h
  unfold body
  split at h
  · next cs hcs =>
    obtain ⟨named, hnamed, h⟩ := bind_eq_ok_iff.1 h
    obtain ⟨parts, hparts, h⟩ := bind_eq_ok_iff.1 h
    rw [← Except.ok.inj h, ← Except.ok.inj hparts, hcs]
    exact ⟨rfl, .kept hnamed⟩
  · next cs hslashes hcs =>
    obtain ⟨parts, hparts, h⟩ := bind_eq_ok_iff.1 h
    rw [← Except.ok.inj h, ← Except.ok.inj hparts, hcs]
    exact ⟨rfl, .rooted hslashes⟩
  · next hslash =>
    obtain ⟨parts, hparts, h⟩ := bind_eq_ok_iff.1 h
    rw [← Except.ok.inj h, ← Except.ok.inj hparts]
    exact ⟨rfl, .rootless hslash⟩

/-- The rules of schemes in general are the only ones for references. -/
theorem exists_readGeneral_of_parse {input : String} {url : Url} (h : Url.parse input = .ok url)
    (hscheme : url.scheme = Uri.scheme) : ∃ rest, readGeneral Uri.scheme rest = .ok url := by
  unfold Url.parse at h
  split at h
  · cases h
  · rw [scheme_of_readLocalFile h] at hscheme
    exact absurd hscheme (by decide)
  · split at h
    · next hport =>
      rw [← scheme_of_readWeb h, hscheme] at hport
      cases hport
    · rw [(place_of_readGeneral h).1] at hscheme
      exact ⟨_, hscheme ▸ h⟩

end Url

namespace Uri

/-! ## Taking a written reference apart -/

/-- What is written after the scheme. -/
def tail (u : Uri) : List Char :=
  u.root.chars ++ u.path.chars ++ marked '?' u.query ++ marked '#' u.fragment

theorem chars_eq (u : Uri) : u.chars = scheme.toList ++ ':' :: u.tail := by
  simp [chars, tail]

theorem lt_toNat_of_mem_marked {keeps : Char → Bool} {mark c : Char}
    {part : Option (Encoded keeps)} (hmark : 0x20 < mark.toNat)
    (hkeeps : ∀ c, keeps c = true → 0x20 < c.toNat) (h : c ∈ marked mark part) :
    0x20 < c.toNat := by
  cases part with
  | none => exact absurd h List.not_mem_nil
  | some e =>
    rcases List.mem_cons.1 h with rfl | hc
    · exact hmark
    · exact hkeeps c (e.kept c hc)

/-- Nothing in a written reference is a space or a control character. -/
theorem lt_toNat_of_mem_chars {u : Uri} {c : Char} (h : c ∈ u.chars) : 0x20 < c.toNat := by
  have hparts : c ∈ u.head ∨ c ∈ marked '?' u.query ∨ c ∈ marked '#' u.fragment := by
    simpa only [chars, head, List.mem_append, or_assoc] using h
  rcases hparts with hhead | hquery | hfragment
  · by_contra hblank
    have hscheme : ∀ d ∈ scheme.toList ++ [':'], 0x20 < d.toNat := by simp [scheme]
    refine not_mem_head ?_ ?_ ?_ (fun hm => hblank (hscheme c hm)) hhead
    · exact Bool.eq_false_iff.2 fun hs => hblank (Percent.lt_toNat_of_inSegment hs)
    · rintro rfl
      exact hblank (by decide)
    · rintro rfl
      exact hblank (by decide)
  · exact lt_toNat_of_mem_marked (by decide) (fun _ => Percent.lt_toNat_of_inQuery) hquery
  · exact lt_toNat_of_mem_marked (by decide) (fun _ => Percent.lt_toNat_of_inFragment) hfragment

theorem not_mem_hierarchy {u : Uri} {mark : Char} (hsegment : inSegment mark = false)
    (hslash : mark ≠ '/') (hdot : mark ≠ '.') (hscheme : mark ∉ scheme.toList ++ [':']) :
    mark ∉ u.root.chars ++ u.path.chars :=
  fun h => not_mem_head hsegment hslash hdot hscheme
    (List.mem_append_right _ (List.mem_cons_of_mem _ h))

theorem cut_tail_fragment (u : Uri) :
    Text.cut '#' u.tail = (u.root.chars ++ u.path.chars ++ marked '?' u.query,
      u.fragment.map fun e => e.text.toList) := by
  refine Text.cut_append (fun h => ?_) (u.fragment.map fun e => e.text.toList)
  rcases List.mem_append.1 h with h | h
  · exact not_mem_hierarchy (by decide) (by decide) (by decide) (by decide) h
  · cases hq : u.query with
    | none => rw [hq] at h; exact absurd h List.not_mem_nil
    | some q =>
      rw [hq] at h
      rcases List.mem_cons.1 h with h | h
      · exact absurd h (by decide)
      · exact absurd (q.kept _ h) (by decide)

theorem cut_tail_query (u : Uri) :
    Text.cut '?' (u.root.chars ++ u.path.chars ++ marked '?' u.query) =
      (u.root.chars ++ u.path.chars, u.query.map fun e => e.text.toList) :=
  Text.cut_append (not_mem_hierarchy (by decide) (by decide) (by decide) (by decide))
    (u.query.map fun e => e.text.toList)

theorem cut_scheme (cs : List Char) :
    Text.cut ':' (scheme.toList ++ ':' :: cs) = (scheme.toList, some cs) :=
  Text.cut_append (by decide) (some cs)

/-- What starts with the scheme is read by the rules of schemes in general. -/
theorem parse_of_trimmed {input : String} {cs : List Char}
    (h : trimmed input.toList = scheme.toList ++ ':' :: cs) :
    Url.parse input = readGeneral scheme (Percent.unbroken cs) := by
  have hscheme : splitScheme (scheme.toList ++ ':' :: cs) = some (scheme, cs) := by
    rw [splitScheme, cut_scheme]
    rfl
  rw [Url.parse, h, hscheme]
  rfl

/-- In a written reference there is nothing that reading drops. -/
theorem parse_text_eq (u : Uri) : Url.parse u.text = readGeneral scheme u.tail := by
  have htail : ∀ c ∈ u.tail, 0x20 < c.toNat := by
    intro c hc
    refine lt_toNat_of_mem_chars (u := u) ?_
    rw [chars_eq]
    exact List.mem_append_right _ (List.mem_cons_of_mem _ hc)
  have htrimmed : trimmed u.text.toList = scheme.toList ++ ':' :: u.tail := by
    rw [text, String.toList_ofList, trimmed_of_lt_toNat fun c => lt_toNat_of_mem_chars, chars_eq]
  rw [parse_of_trimmed htrimmed, Percent.unbroken_of_le_toNat fun c hc => (htail c hc).le]

/-! ## References and URLs -/

/-- The URL that a reference is gets in as the reference. -/
theorem ofUrl_toUrl (u : Uri) : ofUrl u.toUrl = .ok u := by
  obtain ⟨root, path, query, fragment, rooted⟩ := u
  cases root with
  | bare => rfl
  | slashes => rfl
  | dotted => rfl

/-- A URL that is let in is the one that the reference is. -/
theorem eq_toUrl_of_ofUrl {url : Url} {u : Uri} (h : ofUrl url = .ok u) : url = u.toUrl := by
  unfold ofUrl at h
  split at h
  · cases h
  · next hscheme =>
    replace hscheme := not_not.1 hscheme
    split at h
    · cases h
      cases hscheme
      rfl
    · cases h
      cases hscheme
      rfl
    · next a path query fragment isFree =>
      split at h
      · next hnobody =>
        obtain ⟨user, password, host, port⟩ := a
        obtain ⟨rfl, rfl, rfl, rfl⟩ := hnobody
        cases h
        cases hscheme
        rfl
      · cases h
    · cases h

/-- A reference is written as the URL that it is. -/
theorem toUrl_text (u : Uri) : u.toUrl.text = u.text := by
  rw [Url.text, text, Url.chars, chars, ← Root.chars_lead]
  rfl

/-! ## Reading back -/

/-- The reference without a `/.` that its path can do without. -/
def undotted (u : Uri) : Uri where
  root := if u.root = .dotted ∧ u.path.Rooted then .bare else u.root
  path := u.path
  query := u.query
  fragment := u.fragment
  rooted h := by
    split at h
    · next hdotted => exact hdotted.2
    · exact u.rooted h

theorem undotted_root (u : Uri) :
    u.undotted.root = if u.root = .dotted ∧ u.path.Rooted then .bare else u.root :=
  rfl

/-- The root is written as slashes, or else there is a path, with `/.` before it only where it needs
that. -/
def IsWritten (u : Uri) : Prop :=
  u.root = .slashes ∨ u.path ≠ [] ∧ (u.root = .dotted → ¬u.path.Rooted)

theorem isWritten_ofNames (names : List String) : (ofNames names).IsWritten :=
  Or.inl rfl

theorem undotted_of_isWritten {u : Uri} (hu : u.IsWritten) : u.undotted = u := by
  have hroot : ¬(u.root = .dotted ∧ u.path.Rooted) := by
    rintro ⟨hdotted, hrooted⟩
    rcases hu with hslashes | ⟨-, hneeded⟩
    · cases hdotted.symm.trans hslashes
    · exact hneeded hdotted hrooted
  obtain ⟨root, path, query, fragment, rooted⟩ := u
  rw [undotted]
  simp only [if_neg hroot]

/-- A path without an authority is read with what it needs before it. -/
theorem lead_undotted {u : Uri} (hslashes : u.root ≠ .slashes) :
    .of none (.rooted u.path) = u.undotted.root.lead := by
  have hread : Lead.of none (.rooted u.path) = if u.path.Rooted then .nothing else .dot := rfl
  rw [hread, undotted_root]
  cases hroot : u.root with
  | bare => simp [u.rooted hroot, Root.lead]
  | slashes => exact absurd hroot hslashes
  | dotted => by_cases hrooted : u.path.Rooted <;> simp [hrooted, Root.lead]

theorem read_no_authority (more : Bool) :
    Authority.read .general [] more = .ok (Authority.nobody, []) :=
  rfl

/-- Without slashes before it, a path does not start with two of them. -/
theorem ne_slash_of_rooted {s : Segment} {p : Path} (h : Path.Rooted (s :: p))
    (rest : List Char) : s.text.toList ++ Path.chars p ≠ '/' :: rest := by
  intro e
  cases hs : s.text.toList with
  | cons c cs =>
    rw [hs, List.cons_append, List.cons.injEq] at e
    have hc : inSegment c = true := s.kept c (hs ▸ List.mem_cons_self)
    exact (inPath_of_inSegment hc).2 e.1
  | nil =>
    rw [hs, List.nil_append] at e
    cases p with
    | nil => cases e
    | cons t p =>
      refine h ?_
      cases s
      simpa [Segment.empty] using hs

/-- What is written after the scheme is read as the URL that the reference is, but for a `/.` that
is not needed. -/
theorem readGeneral_tail {u : Uri} (hu : u.root = .slashes ∨ u.path ≠ []) :
    readGeneral scheme u.tail = .ok u.undotted.toUrl := by
  have hparts : u.root ≠ .slashes →
      ofParts scheme none (.rooted u.path) u.query u.fragment = u.undotted.toUrl := fun h =>
    ofParts_eq u.undotted.toUrl (lead_undotted h)
  unfold readGeneral
  rw [cut_tail_fragment]
  dsimp only
  rw [cut_tail_query]
  dsimp only
  rw [map_query_text, map_fragment_text]
  cases hr : u.root with
  | slashes =>
    rw [undotted_of_isWritten (Or.inl hr)]
    have hauthority : ofParts scheme (some .nobody) (.rooted u.path) u.query u.fragment = u.toUrl :=
      ofParts_eq u.toUrl (by rw [toUrl_lead, hr]; rfl)
    rw [← hauthority]
    cases hp : u.path with
    | nil => rfl
    | cons s p =>
      have hchars : Root.slashes.chars ++ Path.chars (s :: p) =
          '/' :: '/' :: '/' :: (s.text.toList ++ Path.chars p) := rfl
      have harea : ∀ cs : List Char, List.takeWhile (· != '/') ('/' :: cs) = [] := fun _ => rfl
      rw [hchars]
      simp only [harea, List.length_nil, List.drop_zero, read_no_authority, bind, Except.bind,
        pure, Except.pure, Path.ofText_chars]
  | bare =>
    rw [← hparts (by simp [hr])]
    obtain ⟨s, p, hp⟩ := List.exists_cons_of_ne_nil (hu.resolve_left (by simp [hr]))
    have hrooted := u.rooted hr
    rw [hp] at hrooted ⊢
    have hchars : Root.bare.chars ++ Path.chars (s :: p) =
        '/' :: (s.text.toList ++ Path.chars p) := rfl
    rw [hchars]
    split
    · next h => exact absurd (List.cons.inj h).2 (ne_slash_of_rooted hrooted _)
    · next h =>
      rw [← (List.cons.inj h).2, Path.ofText_chars]
      rfl
    · next h => exact absurd rfl (h _)
  | dotted =>
    rw [← hparts (by simp [hr])]
    have hne : u.path ≠ [] := hu.resolve_left (by simp [hr])
    have hchars : Root.dotted.chars ++ u.path.chars = '/' :: '.' :: u.path.chars := rfl
    rw [hchars]
    split
    · next h => exact absurd (List.cons.inj (List.cons.inj h).2).1 (by decide)
    · next h =>
      rw [← (List.cons.inj h).2, Path.ofText_dot_chars hne]
      rfl
    · next h => exact absurd rfl (h _)

/-- A reference that is written as it is read is read as the URL that it is. -/
theorem parse_text_toUrl {u : Uri} (hu : u.IsWritten) : Url.parse u.text = .ok u.toUrl := by
  rw [parse_text_eq, readGeneral_tail (hu.imp_right And.left), undotted_of_isWritten hu]

/-- A written reference is let in again, but for a `/.` that is not needed. -/
theorem parse_text_undotted {u : Uri} (hu : u.root = .slashes ∨ u.path ≠ []) :
    Uri.parse u.text = .ok u.undotted := by
  have hcut : Text.cut ':' u.text.toList = (scheme.toList, some u.tail) := by
    rw [text, String.toList_ofList, chars_eq, cut_scheme]
  unfold Uri.parse
  rw [hcut, parse_text_eq, readGeneral_tail hu]
  dsimp only
  rw [if_neg (not_not.2 rfl), ofUrl_toUrl]

/-- A reference that is written as it is read is let in again, as the reference that it is. -/
theorem parse_text {u : Uri} (hu : u.IsWritten) : Uri.parse u.text = .ok u := by
  have hled : u.root = .slashes ∨ u.path ≠ [] := hu.imp_right And.left
  rw [parse_text_undotted hled, undotted_of_isWritten hu]

theorem read_toValue {u : Uri} (h : Uri.parse u.text = .ok u) : Uri.read u.toValue = some u := by
  rw [read, toValue, Value.text?]
  show (Uri.parse u.text).toOption = some u
  rw [h]
  rfl

/-- What is let in as a text is let in as the URL that is read. -/
theorem exists_ofUrl_of_parse {input : String} {u : Uri} (h : Uri.parse input = .ok u) :
    ∃ url, Url.parse input = .ok url ∧ ofUrl url = .ok u := by
  unfold Uri.parse at h
  split at h
  · cases h
  · split at h
    · cases h
    · split at h
      · cases h
      · next url hurl => exact ⟨url, hurl, h⟩

/-- What is let in as a URL that has been read is written as it is read. -/
theorem isWritten_of_ofUrl {input : String} {url : Url} {u : Uri}
    (hurl : Url.parse input = .ok url) (h : ofUrl url = .ok u) : u.IsWritten := by
  obtain rfl := eq_toUrl_of_ofUrl h
  obtain ⟨rest, hrest⟩ := exists_readGeneral_of_parse hurl rfl
  have hplace := (place_of_readGeneral hrest).2
  generalize body rest = written at hplace
  rcases hplace.lead_of_rooted with ⟨a, ha⟩ | ⟨hne, hlead⟩
  · exact Or.inl (Root.eq_slashes_of_lead ha)
  · refine Or.inr ⟨hne, fun hdotted hrooted => ?_⟩
    have hfree : Lead.of none (.rooted u.path) = .nothing := if_pos hrooted
    rw [hfree, toUrl_lead, hdotted] at hlead
    cases hlead

/-- What is let in is written as it is read. -/
theorem isWritten_of_parse {input : String} {u : Uri} (h : Uri.parse input = .ok u) :
    u.IsWritten := by
  obtain ⟨url, hurl, hin⟩ := exists_ofUrl_of_parse h
  exact isWritten_of_ofUrl hurl hin

/-! ## References that are given -/

/-- What a caller gives is read back once it is written down, as every text is that is let in. -/
def Given.ReadsBack : Given → Prop
  | .text _ => True
  | .url address => ∀ u, ofUrl address = .ok u → u.IsWritten
  | .value u => u.IsWritten

theorem isWritten_of_letIn {given : Given} {u : Uri} (hgiven : given.ReadsBack)
    (h : letIn given = .ok u) : u.IsWritten := by
  cases given with
  | text input =>
    cases input with
    | none => cases h
    | some input => exact isWritten_of_parse h
  | url address => exact hgiven u h
  | value v =>
    cases h
    exact hgiven

end Uri

end Depot
