import Mathlib.Data.List.Infix
import Depot.Access

/-!
# Callers and their patterns

The namespaces below a namespace are those whose segments go on from its own
(`Namespace.isWithin_iff`), although this is looked up in the texts: a dot behind the shorter text
keeps `company.teammate` out of `company.team`.

A pattern of callers is written in one way, and reading accepts what is written
(`CallerPattern.read_eq_ok_iff`): the star, a namespace, and a namespace with a dot and a star
behind it cannot be taken for each other, because no namespace has a star in it. So whom a pattern
admits can be told from its text (`CallerPattern.admits_iff_namesCaller`).
-/

namespace Depot

namespace Namespace

theorem text_inj {m n : Namespace} : m.text = n.text ↔ m = n := by
  cases m
  cases n
  simp

/-- A namespace is another one or lies below it if its segments begin with those of the other. -/
theorem isWithin_iff {n other : Namespace} :
    n.isWithin other = true ↔ other.segments <+: n.segments := by
  rw [segments, segments, Text.pieces_isPrefix_pieces_iff, text_inj, isWithin, Bool.or_eq_true,
    beq_iff_eq, List.isPrefixOf_iff_prefix]
  refine or_congr_right (exists_congr fun rest => ?_)
  rw [List.append_assoc, List.singleton_append, eq_comm]

end Namespace

/-- What is written with a dot and a star at its end is no namespace. -/
theorem not_isNamespace_append_star (stem : List Char) :
    ¬IsNamespace (String.ofList (stem ++ ['.', '*'])) := by
  intro h
  unfold IsNamespace at h
  rw [String.toList_ofList, Text.split_append_sep] at h
  -- The last piece is the star.
  have hstar := (h ['*'] (List.mem_append_right _ (by decide))).2 '*' (List.mem_singleton_self _)
  exact absurd hstar (by decide)

/-- A text names callers: all of them, those of a namespace, or those of one and of all below it. -/
def IsCallerPattern (entry : String) : Prop :=
  entry = "*" ∨ IsNamespace entry ∨ ∃ stem, IsNamespace stem ∧ entry = stem ++ ".*"

/-- An entry of a rule, as it is written, names a caller. -/
def NamesCaller (entry : String) (caller : Namespace) : Prop :=
  entry = "*" ∨ entry = caller.text ∨
    ∃ space : Namespace, entry = space.text ++ ".*" ∧ space.segments <+: caller.segments

namespace CallerPattern

variable {p : CallerPattern} {entry : String}

/-- A pattern as it is written. -/
def text : CallerPattern → String
  | any => "*"
  | within space => space.text ++ ".*"
  | exactly space => space.text

theorem stem?_eq_some_iff {cs stem : List Char} :
    stem? cs = some stem ↔ cs = stem ++ ['.', '*'] := by
  have hreverse : cs.reverse = '*' :: '.' :: stem.reverse ↔ cs = stem ++ ['.', '*'] := by
    rw [List.reverse_eq_iff]
    simp
  rw [← hreverse]
  unfold stem?
  split
  · next rest h => simp [h, List.reverse_eq_iff]
  · next h =>
    constructor
    · rintro ⟨⟩
    · intro hcs
      exact absurd hcs (h _)

theorem ne_star_of_isNamespace (h : IsNamespace entry) : entry ≠ "*" := by
  rintro rfl
  exact absurd h (by decide)

theorem stem?_of_isNamespace (h : IsNamespace entry) : stem? entry.toList = none := by
  rw [Option.eq_none_iff_forall_not_mem]
  intro stem hstem
  rw [Option.mem_def, stem?_eq_some_iff] at hstem
  rw [← String.ofList_toList (s := entry), hstem] at h
  exact not_isNamespace_append_star stem h

theorem toList_append_star (stem : String) :
    (stem ++ ".*").toList = stem.toList ++ ['.', '*'] := by
  rw [String.toList_append]
  rfl

theorem text_of_read (h : read entry = .ok p) : p.text = entry := by
  unfold read at h
  split at h
  · next hstar =>
    cases h
    exact hstar.symm
  · split at h
    · next stem hstem =>
      cases hn : Namespace.read (String.ofList stem) with
      | error e =>
        rw [hn] at h
        cases h
      | ok n =>
        rw [hn] at h
        cases h
        rw [stem?_eq_some_iff] at hstem
        rw [text, Namespace.read_eq_ok_iff.1 hn, ← String.toList_inj, toList_append_star,
          String.toList_ofList, hstem]
    · cases hn : Namespace.read entry with
      | error e =>
        rw [hn] at h
        cases h
      | ok n =>
        rw [hn] at h
        cases h
        exact Namespace.read_eq_ok_iff.1 hn

theorem read_text (p : CallerPattern) : read p.text = .ok p := by
  cases p with
  | any => rfl
  | within space =>
    have hstem : stem? (space.text ++ ".*").toList = some space.text.toList :=
      stem?_eq_some_iff.2 (toList_append_star space.text)
    have hstar : space.text ++ ".*" ≠ "*" := by
      intro h
      rw [h] at hstem
      cases hstem
    have hread : Namespace.read space.text = .ok space := Namespace.read_eq_ok_iff.2 rfl
    rw [text, read, if_neg hstar, hstem]
    dsimp only
    rw [String.ofList_toList, hread]
    rfl
  | exactly space =>
    have hread : Namespace.read space.text = .ok space := Namespace.read_eq_ok_iff.2 rfl
    rw [text, read, if_neg (ne_star_of_isNamespace space.isNamespace),
      stem?_of_isNamespace space.isNamespace, hread]
    rfl

/-- Reading accepts exactly what patterns are written as. -/
theorem read_eq_ok_iff : read entry = .ok p ↔ p.text = entry := by
  constructor
  · exact text_of_read
  · rintro rfl
    exact read_text p

/-- Different patterns are written differently. -/
theorem text_inj {q : CallerPattern} : p.text = q.text ↔ p = q := by
  constructor
  · intro h
    have hread := read_text p
    rw [h, read_text q] at hread
    exact (Except.ok.inj hread).symm
  · intro h
    rw [h]

/-- What is written as a pattern is the star, a namespace, or a namespace with `.*` behind it. -/
theorem exists_text_eq_iff : (∃ p : CallerPattern, p.text = entry) ↔ IsCallerPattern entry := by
  constructor
  · rintro ⟨_ | space | space, rfl⟩
    · exact Or.inl rfl
    · exact Or.inr (Or.inr ⟨space.text, space.isNamespace, rfl⟩)
    · exact Or.inr (Or.inl space.isNamespace)
  · rintro (rfl | h | ⟨stem, h, rfl⟩)
    · exact ⟨any, rfl⟩
    · exact ⟨exactly ⟨entry, h⟩, rfl⟩
    · exact ⟨within ⟨stem, h⟩, rfl⟩

/-- A pattern admits the callers that are named by what is written. -/
theorem admits_iff_namesCaller {caller : Namespace} :
    p.admits caller = true ↔ NamesCaller p.text caller := by
  cases p with
  | any => exact ⟨fun _ => Or.inl rfl, fun _ => rfl⟩
  | within space =>
    rw [admits, Namespace.isWithin_iff]
    constructor
    · intro h
      exact Or.inr (Or.inr ⟨space, rfl, h⟩)
    · rintro (h | h | ⟨other, h, hsegments⟩)
      · cases (text_inj (q := any)).1 h
      · cases (text_inj (q := exactly caller)).1 h
      · cases (text_inj (q := within other)).1 h
        exact hsegments
  | exactly space =>
    rw [admits, beq_iff_eq]
    constructor
    · rintro rfl
      exact Or.inr (Or.inl rfl)
    · rintro (h | h | ⟨other, h, -⟩)
      · cases (text_inj (q := any)).1 h
      · exact (Namespace.text_inj.1 h).symm
      · cases (text_inj (q := within other)).1 h

end CallerPattern

end Depot
