import Depot.Proofs.Uri.Below

/-!
# What the segments of a reference say

A reference is a text, and what it says is in its segments, once they are decoded. Two things make
it safe to go by them:

* a file name leads through its parts, whatever they are made of, and is read back from below the
  reference that it was put below (`Uri.resolve_lossless`);
* no segment says to stay or to go up, in whatever way a dot can be spelled
  (`Uri.segments_never_climb`).

The second one is about two readings of one text. Reading a path takes a piece for a step if it is
one of a few spellings of dots, and reading a segment decodes any escapes there are. They agree on
what dots are (`Percent.decode_eq_dot_iff`, `Percent.decode_eq_dots_iff`), so that what the first
one has left does not turn into dots for the second one.
-/

namespace Depot

open Url

/-! ## Dots -/

/-- A segment is not read as dots. -/
theorem Url.Segment.decode_ne_dots (s : Segment) :
    Percent.decode s.text ≠ "." ∧ Percent.decode s.text ≠ ".." := by
  obtain ⟨hhere, habove⟩ := s.named
  constructor
  · rw [ne_eq, Percent.decode_eq_dot_iff, hhere]
    exact Bool.false_ne_true
  · rw [ne_eq, Percent.decode_eq_dots_iff, habove]
    exact Bool.false_ne_true

namespace Uri

theorem exists_of_mem_segments {u : Uri} {segment : String} (h : segment ∈ u.segments) :
    ∃ s : Segment, s.text = segment ∧ s.text ≠ "" := by
  obtain ⟨hmem, hne⟩ := List.mem_filter.1 h
  obtain ⟨s, -, rfl⟩ := List.mem_map.1 hmem
  exact ⟨s, rfl, by simpa using hne⟩

/-- No segment of a reference is empty, says to stay or says to go up, as it is written or as it is
read: neither those that are read below another reference, nor the last one. -/
theorem segments_never_climb (u : Uri) :
    (∀ segment ∈ u.segments, segment ≠ "" ∧ segment ≠ "." ∧ segment ≠ "..") ∧
    (∀ base names, u.relativeTo base = some names → ∀ name ∈ names, name ≠ "." ∧ name ≠ "..") ∧
    ∀ name, u.fileName? = some name → name ≠ "." ∧ name ≠ ".." := by
  have hread : ∀ segment ∈ u.segments,
      Percent.decode segment ≠ "." ∧ Percent.decode segment ≠ ".." := by
    intro segment hsegment
    obtain ⟨s, rfl, -⟩ := exists_of_mem_segments hsegment
    exact s.decode_ne_dots
  refine ⟨?_, ?_, ?_⟩
  · intro segment hsegment
    obtain ⟨s, rfl, hne⟩ := exists_of_mem_segments hsegment
    refine ⟨hne, ?_, ?_⟩
    · intro hdot
      exact absurd s.named.1 (by rw [hdot]; decide)
    · intro hdots
      exact absurd s.named.2 (by rw [hdots]; decide)
  · intro base names hnames name hname
    unfold relativeTo at hnames
    split at hnames
    · rw [← Option.some.inj hnames] at hname
      obtain ⟨segment, hsegment, rfl⟩ := List.mem_map.1 hname
      exact hread segment (List.mem_of_mem_drop hsegment)
    · cases hnames
  · intro name hname
    obtain ⟨segment, hlast, rfl⟩ := Option.map_eq_some_iff.1 hname
    exact hread segment (List.mem_of_getLast? hlast)

/-- One dot or two are a step even if they are escaped in part and parted by a tab. Three of them
are a name, and so are two escaped ones that a file name brings along. -/
theorem segments_never_climb_of_spellings :
    let a : Segment := ⟨"a", List.all_eq_true.1 rfl, by decide⟩
    let dots : Segment := ⟨"%2e%2E%2e", List.all_eq_true.1 rfl, by decide⟩
    let base : Uri := ⟨.slashes, [a, dots], none, none, nofun⟩
    let u := base.join ["%2e%2e"]
    Uri.parse "kestra:///a/b/.%2\tE/%2e/%2e%2E%2e" = .ok base ∧
      base.resolve "%2e%2e" = .ok u ∧
      ("%252e%252e" ∈ u.segments ∧ "%252e%252e" ≠ "..") ∧
      (u.relativeTo base = some ["%2e%2e"] ∧ "%2e%2e" ≠ "..") ∧
      u.fileName? = some "%2e%2e" := by
  intro a dots base u
  obtain ⟨hsegments, hnames, -⟩ := segments_never_climb u
  have hmem : "%252e%252e" ∈ u.segments := by decide +kernel
  have hrelative : u.relativeTo base = some ["%2e%2e"] := by decide +kernel
  refine ⟨by decide +kernel, by decide +kernel, ⟨hmem, ?_⟩, ⟨hrelative, ?_⟩, by decide +kernel⟩
  · exact (hsegments _ hmem).2.2
  · exact (hnames base _ hrelative _ List.mem_cons_self).2

/-! ## File names -/

/-- A file name is let in below any reference if it has parts and each of them is neither empty nor
dots and holds no backslash and no control character. It leads through the segments of the
reference and on through its parts, is read there as those parts, and no other name leads to the
same place. -/
theorem resolve_lossless (base : Uri) (name : String) :
    ((∃ u, base.resolve name = .ok u) ↔
      name ≠ "" ∧ ∀ part ∈ Text.pieces '/' name,
        part ≠ "" ∧ part ≠ "." ∧ part ≠ ".." ∧
          ∀ c ∈ part.toList, c ≠ '\\' ∧ isControl c = false) ∧
    ∀ u, base.resolve name = .ok u →
      u.startsWith base = true ∧
      u.segments = base.segments ++ (Text.pieces '/' name).map written ∧
      u.relativeTo base = some (Text.pieces '/' name) ∧
      ∀ other, base.resolve other = .ok u → other = name := by
  constructor
  · simp only [resolve_eq_ok_iff, exists_and_left, exists_eq, and_true, isPart_iff]
    constructor
    · intro hparts
      refine ⟨?_, hparts⟩
      rintro rfl
      exact absurd rfl (hparts "" (by decide)).1
    · exact And.right
  · intro u hu
    obtain ⟨hparts, rfl⟩ := resolve_eq_ok_iff.1 hu
    have hsegments := segments_join hparts base
    have hrelative := relativeTo_join hparts base
    refine ⟨startsWith_of_segments hsegments, hsegments, hrelative, ?_⟩
    intro other hother
    obtain ⟨hothers, hjoin⟩ := resolve_eq_ok_iff.1 hother
    rw [hjoin, relativeTo_join hothers] at hrelative
    exact Text.pieces_injective (Option.some.inj hrelative)

/-- What looks like a step or a slash in a file name is part of a name, and stays one below a path
that ends in slashes, whatever follows the path. -/
theorem resolve_lossless_of_escapes :
    let a : Segment := ⟨"a", List.all_eq_true.1 rfl, by decide⟩
    let base : Uri := ⟨.slashes, [.empty, a, .empty, .empty],
      some ⟨"q", List.all_eq_true.1 rfl⟩, some ⟨"f", List.all_eq_true.1 rfl⟩, nofun⟩
    let u := base.join ["%2e%2e", "b%2Fc ü"]
    Uri.parse "kestra:////a//?q#f" = .ok base ∧
      u.text = "kestra:////a//%252e%252e/b%252Fc%20%C3%BC?q#f" ∧
      base.resolve "%2e%2e/b%2Fc ü" = .ok u ∧ u.startsWith base = true ∧
      u.relativeTo base = some ["%2e%2e", "b%2Fc ü"] := by
  intro a base u
  have hresolve : base.resolve "%2e%2e/b%2Fc ü" = .ok u := by decide +kernel
  have hpieces : Text.pieces '/' "%2e%2e/b%2Fc ü" = ["%2e%2e", "b%2Fc ü"] := by decide +kernel
  obtain ⟨hstarts, -, hrelative, -⟩ := (resolve_lossless base _).2 u hresolve
  rw [hpieces] at hrelative
  exact ⟨by decide +kernel, by decide +kernel, hresolve, hstarts, hrelative⟩

end Uri

end Depot
