import Depot.Proofs.Layout.Ways

/-!
# References that names lead to

A reference may be written in more than one way: with a query or a fragment, without the slashes
before its path, with characters escaped that need not be. Of those that lead through the same names
one is written as the names are put below the root (`Uri.IsNamed`). It is the one that all names and
paths lead to, so that its segments tell it (`IsNamed.eq_of_segments`), and what lies below what can
be read off the names (`isBelow_ofNames`, `relativeTo_ofNames`).
-/

namespace Depot

open Url

/-- A name that stands between two slashes of a path. -/
def IsPiece (name : String) : Prop :=
  IsPart name ∧ '/' ∉ name.toList

instance (name : String) : Decidable (IsPiece name) :=
  inferInstanceAs (Decidable (_ ∧ _))

theorem isPiece_of_isName {name : String} (h : IsName name) : IsPiece name :=
  ⟨isPart_of_isName h, fun hslash => absurd (h.2 '/' hslash) (by decide)⟩

theorem isPiece_of_mem_pieces {path : String}
    (h : ∀ part ∈ Text.pieces '/' path, IsPart part) :
    ∀ part ∈ Text.pieces '/' path, IsPiece part := by
  intro part hpart
  exact ⟨h part hpart, Text.not_mem_of_mem_pieces hpart⟩

namespace Uri

variable {u v base : Uri} {names others rest : List String}

/-- Names lead to the reference from the root, and it is written the way they are put there. -/
def IsNamed (u : Uri) : Prop :=
  ∃ names, (∀ name ∈ names, IsPiece name) ∧ u = .ofNames names

theorem IsNamed.eq_of_segments (hu : u.IsNamed) (hv : v.IsNamed) (h : u.segments = v.segments) :
    u = v := by
  obtain ⟨names, hnames, rfl⟩ := hu
  obtain ⟨others, hothers, rfl⟩ := hv
  rw [segments_ofNames fun name h => (hnames name h).1,
    segments_ofNames fun name h => (hothers name h).1] at h
  rw [map_written_injective h]

/-- What a named reference lies below can be written as names lead there. -/
theorem IsNamed.exists_segments_eq (hu : u.IsNamed) (h : u.startsWith v = true) :
    ∃ w : Uri, w.IsNamed ∧ w.segments = v.segments := by
  obtain ⟨names, hnames, rfl⟩ := hu
  rw [startsWith, List.isPrefixOf_iff_prefix,
    segments_ofNames fun name h => (hnames name h).1] at h
  obtain ⟨rest, hrest⟩ := h
  obtain ⟨front, back, rfl, hfront, -⟩ := List.map_eq_append_iff.1 hrest.symm
  have hnamed : ∀ name ∈ front, IsPiece name := fun n hn => hnames n (List.mem_append_left _ hn)
  refine ⟨.ofNames front, ⟨front, hnamed, rfl⟩, ?_⟩
  rw [segments_ofNames fun name h => (hnamed name h).1, hfront]

/-- What goes through a reference is at it or below it. -/
theorem IsNamed.startsWith_iff (hu : u.IsNamed) (hv : v.IsNamed) :
    u.startsWith v = true ↔ u = v ∨ u.IsBelow v := by
  constructor
  · intro h
    have hbegins : v.segments <+: u.segments := by
      rwa [startsWith, List.isPrefixOf_iff_prefix] at h
    rcases Nat.eq_or_lt_of_le hbegins.length_le with heq | hlt
    · exact Or.inl (hu.eq_of_segments hv (hbegins.eq_of_length heq).symm)
    · exact Or.inr ⟨h, hlt⟩
  · rintro (rfl | h)
    · simp [startsWith]
    · exact h.1

/-! ## Lying below, by names -/

theorem isBelow_ofNames (h : ∀ name ∈ names, IsPart name) (ho : ∀ name ∈ others, IsPart name) :
    (ofNames names).IsBelow (ofNames others) ↔ ∃ rest, rest ≠ [] ∧ names = others ++ rest := by
  unfold IsBelow
  rw [startsWith_ofNames h ho, segments_ofNames h, segments_ofNames ho, List.length_map,
    List.length_map]
  constructor
  · rintro ⟨⟨rest, rfl⟩, hlt⟩
    refine ⟨rest, ?_, rfl⟩
    rintro rfl
    simp at hlt
  · rintro ⟨rest, hne, rfl⟩
    refine ⟨List.prefix_append _ _, ?_⟩
    rw [List.length_append]
    exact Nat.lt_add_of_pos_right (List.length_pos_iff.2 hne)

/-- The names below a reference are read as they were put there. -/
theorem relativeTo_ofNames (h : ∀ name ∈ others ++ rest, IsPart name) :
    (ofNames (others ++ rest)).relativeTo (ofNames others) = some rest := by
  have ho : ∀ name ∈ others, IsPart name := fun name hn => h name (List.mem_append_left _ hn)
  have hprefix : (ofNames (others ++ rest)).startsWith (ofNames others) = true :=
    (startsWith_ofNames h ho).2 (List.prefix_append _ _)
  rw [relativeTo, if_pos hprefix, segments_ofNames h, segments_ofNames ho, List.map_append,
    List.drop_left, map_decode_written]

/-- What is read below a reference is what leads from there to a named one. -/
theorem eq_ofNames_of_relativeTo (hothers : ∀ name ∈ others, IsPart name) (hu : u.IsNamed)
    (h : u.relativeTo (ofNames others) = some rest) :
    u = ofNames (others ++ rest) ∧ ∀ name ∈ others ++ rest, IsPiece name := by
  obtain ⟨names, hnames, rfl⟩ := hu
  have hparts : ∀ name ∈ names, IsPart name := fun name hn => (hnames name hn).1
  have hprefix : (ofNames names).startsWith (ofNames others) = true := by
    by_contra hn
    rw [relativeTo, if_neg hn] at h
    cases h
  obtain ⟨way, rfl⟩ := (startsWith_ofNames hparts hothers).1 hprefix
  rw [relativeTo_ofNames hparts] at h
  rw [← Option.some.inj h]
  exact ⟨rfl, hnames⟩

theorem fileName?_ofNames {name : String} (h : ∀ n ∈ names ++ [name], IsPart n) :
    (ofNames (names ++ [name])).fileName? = some name := by
  rw [fileName?, segments_ofNames h, List.map_append, List.map_singleton,
    List.getLast?_concat, Option.map_some, decode_written]

end Uri

/-! ## Where names and paths lead -/

theorem Context.isNamed_of_resolve {c : Context} {name : String} {u : Uri}
    (h : c.baseUri.resolve name = .ok u) : u.IsNamed := by
  obtain ⟨hparts, rfl⟩ := resolve_baseUri_eq_ok_iff.1 h
  refine ⟨_, fun part hpart => ?_, rfl⟩
  rcases List.mem_append.1 hpart with hpart | hpart
  · exact isPiece_of_isName (isName_of_mem_scopeNames part hpart)
  · exact isPiece_of_mem_pieces hparts part hpart

theorem Context.isNamed_of_cacheUri {c : Context} {cacheId : String} {objectId : Option String}
    {u : Uri} (h : c.cacheUri cacheId objectId = .ok u) : u.IsNamed := by
  obtain ⟨cache, object, -, -, rfl⟩ := cacheUri_eq_ok_iff.1 h
  exact ⟨_, fun part hpart => isPiece_of_isName (isName_of_mem_cacheNames part hpart), rfl⟩

namespace NamespaceFiles

variable {f : NamespaceFiles}

/-- The names that lead to the files of a namespace. -/
def rootNames (f : NamespaceFiles) : List String :=
  f.area.space.segments ++ ["_files"]

theorem isPiece_of_mem_rootNames : ∀ name ∈ f.rootNames, IsPiece name :=
  fun name h => isPiece_of_isName (Namespace.isName_of_mem_filesNames name h)

theorem isPart_of_mem_rootNames : ∀ name ∈ f.rootNames, IsPart name :=
  fun name h => (isPiece_of_mem_rootNames name h).1

theorem rootNames_ne_nil : f.rootNames ≠ [] := by
  simp [rootNames]

/-- The names on a way from the top through the root. -/
theorem isPiece_of_mem_rootNames_append {names : List String} (h : ∀ name ∈ names, IsPiece name) :
    ∀ name ∈ f.rootNames ++ names, IsPiece name := by
  intro name hname
  rcases List.mem_append.1 hname with hname | hname
  · exact isPiece_of_mem_rootNames name hname
  · exact h name hname

/-- A path leads from the root through its pieces. -/
theorem uriOf_eq_ok_iff_pieces {path : String} {u : Uri} :
    f.uriOf path = .ok u ↔
      (∀ piece ∈ Text.pieces '/' (trimPath path), IsPiece piece) ∧
        u = .ofNames (f.rootNames ++ Text.pieces '/' (trimPath path)) := by
  have hnames : f.rootNames ++ Text.pieces '/' (trimPath path) =
      f.area.space.segments ++ "_files" :: Text.pieces '/' (trimPath path) := by
    rw [rootNames, List.append_assoc, List.singleton_append]
  rw [uriOf_eq_ok_iff, hnames]
  constructor
  · rintro ⟨hparts, hu⟩
    exact ⟨isPiece_of_mem_pieces hparts, hu⟩
  · rintro ⟨hpieces, hu⟩
    exact ⟨fun piece h => (hpieces piece h).1, hu⟩

theorem isNamed_of_uriOf {path : String} {u : Uri} (h : f.uriOf path = .ok u) : u.IsNamed := by
  obtain ⟨hpieces, rfl⟩ := uriOf_eq_ok_iff_pieces.1 h
  exact ⟨_, isPiece_of_mem_rootNames_append hpieces, rfl⟩

/-- A listing starts where names lead to. -/
theorem exists_names_of_startOf {path : Option String} {start : Uri}
    (h : f.startOf path = .ok start) :
    ∃ names, names ≠ [] ∧ (∀ name ∈ names, IsPart name) ∧ start = .ofNames names := by
  have hroot : ∃ names, names ≠ [] ∧ (∀ name ∈ names, IsPart name) ∧ f.root = .ofNames names :=
    ⟨f.rootNames, rootNames_ne_nil, isPart_of_mem_rootNames, rfl⟩
  unfold startOf at h
  split at h
  · split at h
    · cases h
      exact hroot
    · obtain ⟨hpieces, rfl⟩ := uriOf_eq_ok_iff_pieces.1 h
      refine ⟨_, List.append_ne_nil_of_left_ne_nil rootNames_ne_nil _, fun name hname => ?_, rfl⟩
      exact (isPiece_of_mem_rootNames_append hpieces name hname).1
  · cases h
    exact hroot

end NamespaceFiles

end Depot
