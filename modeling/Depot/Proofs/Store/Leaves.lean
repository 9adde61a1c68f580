import Depot.Proofs.Store.Tree

/-!
# Files with nothing below them

In a tree of files nothing is below a file. The store does not see to that: writing and making a
directory look at their own key only, so that a file can come to be above other objects or below
another file. Nothing else brings it about (`leafFiles_insert_iff`, `leafFiles_remove`). Where no
file has anything below it, no listing shows anything below one (`not_isBelow_of_mem_list`).
-/

namespace Depot.Store

variable {s t : Store} {area : Area} {u : Uri}

/-- A key lies below another one of its area. -/
def Key.IsBelow (k j : Key) : Prop :=
  k.area = j.area ∧ k.uri.IsBelow j.uri

instance (k j : Key) : Decidable (k.IsBelow j) :=
  inferInstanceAs (Decidable (_ ∧ _))

theorem Key.not_isBelow_self (k : Key) : ¬k.IsBelow k :=
  fun h => Nat.lt_irrefl _ h.2.2

/-- No file has an object below it. -/
def LeafFiles (s : Store) : Prop :=
  ∀ (j k : Key) (o p : Object), s.objects[j]? = some o → o.kind = .file →
    s.objects[k]? = some p → ¬k.IsBelow j

/-- An object of a kind would be below a file, or be a file with an object below it. -/
def Clashes (s : Store) (k : Key) (kind : FileKind) : Prop :=
  (∃ (j : Key) (o : Object), s.objects[j]? = some o ∧ o.kind = .file ∧ k.IsBelow j) ∨
    kind = .file ∧ ∃ (j : Key) (o : Object), s.objects[j]? = some o ∧ j.IsBelow k

theorem leafFiles_empty : LeafFiles .empty :=
  fun _ _ _ _ hj => nomatch hj

/-- Taking objects away puts nothing below a file. -/
theorem LeafFiles.of_subset (hs : s.LeafFiles)
    (h : ∀ (k : Key) (o : Object), t.objects[k]? = some o → s.objects[k]? = some o) :
    t.LeafFiles :=
  fun j k o p hj hfile hk => hs j k o p (h j o hj) hfile (h k p hk)

theorem leafFiles_remove (hs : s.LeafFiles) (area : Area) (u : Uri) :
    (s.remove area u).2.LeafFiles :=
  hs.of_subset fun _ _ => getElem?_of_remove

/-- Where an object goes over one of its kind, what was stored is stored still, as an object of its
kind. -/
theorem exists_kind_insert {o p : Object} {k : Key}
    (hkind : ∀ old, s.find? area u = some old → old.kind = o.kind) (hp : s.objects[k]? = some p) :
    ∃ q, (s.insert area u o).objects[k]? = some q ∧ q.kind = p.kind := by
  rw [getElem?_insert]
  split
  · next hk =>
    subst hk
    exact ⟨o, rfl, (hkind p hp).symm⟩
  · exact ⟨p, hp, rfl⟩

/-- An object that goes over one of its kind changes nothing about what is below a file, and a new
one does if it clashes. -/
theorem leafFiles_insert_iff {o : Object}
    (hkind : ∀ old, s.find? area u = some old → old.kind = o.kind) :
    (s.insert area u o).LeafFiles ↔
      s.LeafFiles ∧ (s.find? area u = none → ¬s.Clashes ⟨area, u⟩ o.kind) := by
  have hself : (s.insert area u o).objects[(⟨area, u⟩ : Key)]? = some o := by
    rw [getElem?_insert, if_pos rfl]
  have hother : ∀ {k : Key}, k ≠ ⟨area, u⟩ →
      (s.insert area u o).objects[k]? = s.objects[k]? := by
    intro k hk
    rw [getElem?_insert, if_neg hk]
  constructor
  · intro h
    constructor
    · intro j k p q hj hfile hk
      obtain ⟨p', hj', hpkind⟩ := exists_kind_insert hkind hj
      obtain ⟨q', hk', -⟩ := exists_kind_insert hkind hk
      exact h j k p' q' hj' (hpkind.trans hfile) hk'
    · rintro hnew (⟨j, p, hj, hfile, hbelow⟩ | ⟨hfile, j, p, hj, hbelow⟩)
      · obtain ⟨p', hj', hpkind⟩ := exists_kind_insert hkind hj
        exact h j ⟨area, u⟩ p' o hj' (hpkind.trans hfile) hself hbelow
      · obtain ⟨p', hj', -⟩ := exists_kind_insert hkind hj
        exact h ⟨area, u⟩ j o p' hself hfile hj' hbelow
  · rintro ⟨hs, hnew⟩ j k p q hj hfile hk hbelow
    by_cases hjself : j = ⟨area, u⟩
    · subst hjself
      have hkself : k ≠ ⟨area, u⟩ := by
        rintro rfl
        exact Key.not_isBelow_self _ hbelow
      rw [hother hkself] at hk
      rw [hself] at hj
      obtain rfl := Option.some.inj hj
      cases hold : s.find? area u with
      | none => exact hnew hold (Or.inr ⟨hfile, k, q, hk, hbelow⟩)
      | some old => exact hs _ k old q hold ((hkind old hold).trans hfile) hk hbelow
    · rw [hother hjself] at hj
      by_cases hkself : k = ⟨area, u⟩
      · subst hkself
        cases hold : s.find? area u with
        | none => exact hnew hold (Or.inl ⟨j, p, hj, hfile, hbelow⟩)
        | some old => exact hs j _ p old hj hfile hold hbelow
      · rw [hother hkself] at hk
        exact hs j k p q hj hfile hk hbelow

/-- Where no file has an object below it, nothing is listed below a file. -/
theorem not_isBelow_of_mem_list {names : List String} (hs : s.NamedIn area) (hne : names ≠ [])
    (hnames : ∀ n ∈ names, IsPart n) (hleaf : s.LeafFiles) {d e : Entry}
    (hd : d ∈ s.list area (.ofNames names)) (hfile : d.attributes.isDirectory = false)
    (he : e ∈ s.list area (.ofNames names)) : ¬e.uri.IsBelow d.uri := by
  intro hbelow
  obtain ⟨o, ho, hkind⟩ := exists_file_of_mem_list hd hfile
  obtain ⟨v, p, hp, rfl | hunder⟩ := exists_object_of_mem_list hs hne hnames he
  · exact hleaf ⟨area, d.uri⟩ ⟨area, _⟩ o p ho hkind hp ⟨rfl, hbelow⟩
  · exact hleaf ⟨area, d.uri⟩ ⟨area, v⟩ o p ho hkind hp ⟨rfl, hunder.trans hbelow⟩

end Depot.Store
