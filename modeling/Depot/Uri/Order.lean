import Std.Data.ExtTreeMap
import Depot.Uri

/-!
# The order of references

References are compared as they are written. Main statement: `Uri.text_injective`, different
references are written differently, so that the order puts no two of them in one place.
-/

namespace Depot

open Url

/-! ## The parts of a written reference -/

theorem inPath_of_inSegment {c : Char} (h : inSegment c = true) :
    Percent.inPath c = true ∧ c ≠ '/' := by
  simpa [inSegment] using h

namespace Url.Path

/-- Before a path a text without slashes is the first piece, and the segments are the others. -/
theorem split_append_chars {pre : List Char} (h : '/' ∉ pre) (p : Path) :
    Text.split '/' (pre ++ p.chars) = pre :: p.map fun s => s.text.toList := by
  induction p generalizing pre with
  | nil => simpa [chars] using Text.split_of_not_mem h
  | cons s p ih =>
    have hs : '/' ∉ s.text.toList := fun hm => (inPath_of_inSegment (s.kept _ hm)).2 rfl
    have := Text.split_append h (s.text.toList ++ chars p)
    simp only [chars, List.flatMap_cons, List.cons_append, List.map_cons] at this ⊢
    rw [this]
    exact congrArg _ (ih hs)

theorem map_toList_injective {p q : Path}
    (h : p.map (fun s => s.text.toList) = q.map fun s => s.text.toList) : p = q := by
  refine List.map_inj_right (fun s t e => ?_) |>.1 h
  cases s; cases t
  simpa [String.toList_inj] using e

theorem not_mem_chars {p : Path} {c : Char} (hc : inSegment c = false) (hs : c ≠ '/') :
    c ∉ p.chars := by
  intro hm
  obtain ⟨s, _, hm⟩ := List.mem_flatMap.1 hm
  rcases List.mem_cons.1 hm with e | hm
  · exact hs e
  · simp [s.kept c hm] at hc

end Url.Path

namespace Uri

/-- What tells the roots apart among the pieces between slashes. -/
def rootPieces (u : Uri) : List (List Char) :=
  match u.root with
  | .bare => []
  | .slashes => [[], []]
  | .dotted => [['.']]

theorem not_mem_dot : '/' ∉ ['.'] := by
  decide

theorem split_hierarchy (u : Uri) :
    Text.split '/' (u.root.chars ++ u.path.chars) =
      [] :: (u.rootPieces ++ u.path.map fun s => s.text.toList) := by
  unfold rootPieces
  cases u.root with
  | bare => exact Path.split_append_chars List.not_mem_nil u.path
  | slashes =>
    have h := Path.split_append_chars List.not_mem_nil u.path
    simp only [List.nil_append] at h
    simp [Root.chars, Text.split, h]
  | dotted =>
    have h := Path.split_append_chars not_mem_dot u.path
    simp only [List.cons_append, List.nil_append] at h
    simp only [Root.chars, List.cons_append, List.nil_append]
    rw [show '/' :: '.' :: u.path.chars = [] ++ '/' :: ('.' :: u.path.chars) from rfl,
      Text.split_append (by simp), h]

/-- The pieces between slashes determine the root and the path. -/
theorem hierarchy_injective {u v : Uri}
    (h : u.root.chars ++ u.path.chars = v.root.chars ++ v.path.chars) :
    u.root = v.root ∧ u.path = v.path := by
  have hs := congrArg (Text.split '/') h
  rw [split_hierarchy, split_hierarchy, List.cons.injEq] at hs
  have hs := hs.2
  have bare_slashes : ∀ {a b : Uri}, a.root = .bare →
      (a.path.map fun s => s.text.toList) ≠ [] :: [] :: b.path.map fun s => s.text.toList := by
    intro a b ha e
    obtain ⟨s, p, hp, hs, e⟩ := List.map_eq_cons_iff.1 e
    obtain ⟨t, q, hq, _, _⟩ := List.map_eq_cons_iff.1 e
    have := a.rooted ha
    rw [hp, hq] at this
    apply this
    cases s
    simpa [Segment.empty] using hs
  have bare_dotted : ∀ {a b : Uri},
      (a.path.map fun s => s.text.toList) ≠ ['.'] :: b.path.map fun s => s.text.toList := by
    intro a b e
    obtain ⟨s, p, _, hs, _⟩ := List.map_eq_cons_iff.1 e
    have := s.named.1
    rw [hs] at this
    exact absurd this (by decide)
  unfold rootPieces at hs
  cases hu : u.root <;> cases hv : v.root <;> rw [hu, hv] at hs <;>
    simp only [List.nil_append, List.cons_append] at hs
  · exact ⟨rfl, Path.map_toList_injective hs⟩
  · exact absurd hs (bare_slashes hu)
  · exact absurd hs bare_dotted
  · exact absurd hs.symm (bare_slashes hv)
  · exact ⟨rfl, Path.map_toList_injective (by simpa using hs)⟩
  · simp at hs
  · exact absurd hs.symm bare_dotted
  · simp at hs
  · exact ⟨rfl, Path.map_toList_injective (by simpa using hs)⟩

theorem encoded_injective {keeps : Char → Bool} {a b : Option (Encoded keeps)}
    (h : a.map (fun e => e.text.toList) = b.map fun e => e.text.toList) : a = b := by
  cases a with
  | none => cases b with
    | none => rfl
    | some b => simp at h
  | some a => cases b with
    | none => simp at h
    | some b =>
      cases a; cases b
      simpa [String.toList_inj] using h

/-- The scheme and the path of a written reference. -/
def head (u : Uri) : List Char :=
  scheme.toList ++ ':' :: (u.root.chars ++ u.path.chars)

theorem not_mem_head {u : Uri} {c : Char} (hc : inSegment c = false) (hs : c ≠ '/')
    (hd : c ≠ '.') (hh : c ∉ scheme.toList ++ [':']) : c ∉ u.head := by
  intro hm
  unfold head at hm
  rw [← List.singleton_append, ← List.append_assoc, List.mem_append] at hm
  rcases hm with hm | hm
  · exact hh hm
  · rcases List.mem_append.1 hm with hm | hm
    · cases hr : u.root <;> simp [hr, Root.chars, hs, hd] at hm
    · exact Path.not_mem_chars hc hs hm

theorem cut_fragment (u : Uri) :
    Text.cut '#' u.chars =
      (u.head ++ marked '?' u.query, u.fragment.map fun e => e.text.toList) := by
  have h : '#' ∉ u.head ++ marked '?' u.query := by
    intro hm
    rcases List.mem_append.1 hm with hm | hm
    · exact not_mem_head (by decide) (by decide) (by decide) (by decide) hm
    · cases hq : u.query with
      | none => rw [hq] at hm; exact absurd hm List.not_mem_nil
      | some q =>
        simp only [hq, marked, Option.map_some, Text.marked, List.mem_cons] at hm
        rcases hm with hm | hm
        · exact absurd hm (by decide)
        · exact absurd (q.kept _ hm) (by decide)
  exact Text.cut_append h (u.fragment.map fun e => e.text.toList)

theorem cut_query (u : Uri) :
    Text.cut '?' (u.head ++ marked '?' u.query) =
      (u.head, u.query.map fun e => e.text.toList) := by
  have h : '?' ∉ u.head := not_mem_head (by decide) (by decide) (by decide) (by decide)
  exact Text.cut_append h (u.query.map fun e => e.text.toList)

/-- Different references are written differently. -/
theorem text_injective {u v : Uri} (h : u.text = v.text) : u = v := by
  have hc : u.chars = v.chars := by
    have := congrArg String.toList h
    simpa [text, String.toList_ofList] using this
  have hf := congrArg (Text.cut '#') hc
  rw [cut_fragment, cut_fragment, Prod.mk.injEq] at hf
  have hq := congrArg (Text.cut '?') hf.1
  rw [cut_query, cut_query, Prod.mk.injEq] at hq
  have hh : u.root.chars ++ u.path.chars = v.root.chars ++ v.path.chars := by
    simpa [head] using hq.1
  obtain ⟨hr, hp⟩ := hierarchy_injective hh
  have hq' : u.query = v.query := encoded_injective hq.2
  have hf' : u.fragment = v.fragment := encoded_injective hf.2
  clear h hc hf hq hh
  cases u; cases v
  simp_all

/-! ## The order -/

/-- References are in the order of their texts. -/
instance : Ord Uri := ⟨compareOn text⟩

instance : Std.TransOrd Uri :=
  inferInstanceAs (Std.TransCmp (compareOn text))

theorem eq_of_compare_text {s t : String} (h : compare s t = .eq) : s = t :=
  Std.LawfulEqCmp.eq_of_compare h

instance : Std.LawfulEqOrd Uri where
  eq_of_compare h :=
    text_injective (eq_of_compare_text h)

end Uri

end Depot
