import Depot.Disk
import Mathlib.Data.List.Nodup
import Mathlib.Data.List.Perm.Subperm

/-!
# What paths lead to

Links are followed until something is no link. The paths on the way are a trail (`Disk.Trail`), and
there is one trail at most from a path (`Trail.unique`). So no path is on it twice, and a trail that
ends at a file is not longer than there are entries (`Trail.length_le`). That is why reading gives up
on circles only: a path is read if and only if it leads to a file (`read_eq_ok_iff`).

Of a file or a link that is unlinked nothing is left, and nothing else changes (`find?_unlink`). What
a link has led to can still be reached from where the link led (`leadsTo_unlink_of_link`).
-/

namespace Depot.Disk

/-- The paths that are followed from a path over links, up to one where no link is. -/
inductive Trail (d : Disk) : LocalPath → List LocalPath → LocalEntry → Prop
  | last {path entry} (hzero : 0 ∉ path) (hfind : d.find? path = some entry)
      (hend : ∀ target, entry ≠ .link target) : Trail d path [path] entry
  | link {path target trail entry} (hzero : 0 ∉ path)
      (hfind : d.find? path = some (.link target)) (h : Trail d target trail entry) :
      Trail d path (path :: trail) entry

/-- What a path leads to once all links are followed. -/
def LeadsTo (d : Disk) (path : LocalPath) (entry : LocalEntry) : Prop :=
  ∃ trail, d.Trail path trail entry

variable {d : Disk} {path target : LocalPath} {trail : List LocalPath} {entry : LocalEntry}

/-! ## Trails -/

namespace Trail

/-- A path is followed in one way. -/
theorem unique {others : List LocalPath} {other : LocalEntry} (h : d.Trail path trail entry)
    (hother : d.Trail path others other) : trail = others ∧ entry = other := by
  induction h generalizing others with
  | last _ hfind hend =>
    cases hother with
    | last _ hfind' _ => exact ⟨rfl, Option.some.inj (hfind.symm.trans hfind')⟩
    | link _ hfind' _ => exact absurd (Option.some.inj (hfind.symm.trans hfind')) (hend _)
  | link _ hfind _ ih =>
    cases hother with
    | last _ hfind' hend => exact absurd (Option.some.inj (hfind'.symm.trans hfind)) (hend _)
    | link _ hfind' hrest =>
      cases hfind.symm.trans hfind'
      obtain ⟨rfl, rfl⟩ := ih hrest
      exact ⟨rfl, rfl⟩

/-- From every path on a trail the rest of it is followed. -/
theorem exists_suffix_of_mem (h : d.Trail path trail entry) {q : LocalPath} (hq : q ∈ trail) :
    ∃ rest, rest <:+ trail ∧ d.Trail q rest entry := by
  induction h with
  | @last path entry hzero hfind hend =>
    rw [List.mem_singleton] at hq
    subst hq
    exact ⟨[q], List.suffix_refl _, .last hzero hfind hend⟩
  | @link path target trail entry hzero hfind hrest ih =>
    rcases List.mem_cons.1 hq with rfl | hq
    · exact ⟨q :: trail, List.suffix_refl _, .link hzero hfind hrest⟩
    · obtain ⟨rest, hsuffix, hfollowed⟩ := ih hq
      exact ⟨rest, hsuffix.trans (List.suffix_cons _ _), hfollowed⟩

/-- A link is not met again by following it. -/
theorem not_mem_of_link (hzero : 0 ∉ path)
    (hfind : d.find? path = some (.link target)) (h : d.Trail target trail entry) :
    path ∉ trail := by
  intro hmem
  obtain ⟨rest, hsuffix, hfollowed⟩ := h.exists_suffix_of_mem hmem
  obtain ⟨rfl, -⟩ := hfollowed.unique (.link hzero hfind h)
  have hlength := hsuffix.length_le
  rw [List.length_cons] at hlength
  omega

theorem nodup (h : d.Trail path trail entry) : trail.Nodup := by
  induction h with
  | last => exact List.nodup_singleton _
  | link hzero hfind hrest ih => exact List.nodup_cons.2 ⟨not_mem_of_link hzero hfind hrest, ih⟩

/-- No path with a zero octet is followed. -/
theorem zero_not_mem (h : d.Trail path trail entry) : ∀ q ∈ trail, 0 ∉ q := by
  induction h with
  | last hzero => simpa using hzero
  | link hzero _ _ ih => exact List.forall_mem_cons.2 ⟨hzero, ih⟩

end Trail

/-- What is no directory is an entry. -/
theorem mem_entries_of_find? (hfind : d.find? path = some entry) (hkind : entry ≠ .directory) :
    path ∈ d.entries.map Prod.fst := by
  unfold find? at hfind
  split at hfind
  · exact absurd (Option.some.inj hfind).symm hkind
  · obtain ⟨before, after, hentries, -⟩ := List.lookup_eq_some_iff.1 hfind
    rw [hentries]
    simp

/-- A trail to a file is not longer than there are entries. -/
theorem Trail.length_le {content : ByteArray} (h : d.Trail path trail (.file content)) :
    trail.length ≤ d.entries.length := by
  have hentries : trail ⊆ d.entries.map Prod.fst := by
    intro q hq
    obtain ⟨rest, -, hfollowed⟩ := h.exists_suffix_of_mem hq
    cases hfollowed with
    | last _ hfind _ => exact mem_entries_of_find? hfind nofun
    | link _ hfind _ => exact mem_entries_of_find? hfind nofun
  have hlength := (List.subperm_of_subset h.nodup hentries).length_le
  rwa [List.length_map] at hlength

/-! ## Reading -/

/-- What is read is what a trail ends at. -/
theorem exists_trail_of_readVia {links : Nat} {content : ByteArray}
    (h : d.readVia links path = .ok content) : d.LeadsTo path (.file content) := by
  fun_induction readVia d links path with
  | case1 | case2 | case4 | case5 => cases h
  | case3 links path hzero bytes hfind =>
    cases h
    exact ⟨[path], .last (by simpa using hzero) hfind nofun⟩
  | case6 path hzero target hfind links ih =>
    obtain ⟨trail, htrail⟩ := ih h
    exact ⟨path :: trail, .link (by simpa using hzero) hfind htrail⟩

/-- The links of a trail are followed if there are no more of them than are allowed. -/
theorem readVia_of_trail {content : ByteArray} (h : d.Trail path trail entry)
    (hentry : entry = .file content) {links : Nat} (hlinks : trail.length ≤ links + 1) :
    d.readVia links path = .ok content := by
  induction h generalizing links with
  | last hzero hfind =>
    subst hentry
    rw [readVia, if_neg (by simpa using hzero), hfind]
  | @link path target trail entry hzero hfind hrest ih =>
    -- There is a path at least where the link leads.
    have hpos : 0 < trail.length := by cases hrest <;> simp
    rw [List.length_cons] at hlinks
    obtain ⟨links, rfl⟩ : ∃ n, links = n + 1 := ⟨links - 1, by omega⟩
    rw [readVia, if_neg (by simpa using hzero), hfind]
    exact ih hentry (by omega)

/-- A path is read if and only if it leads to a file. -/
theorem read_eq_ok_iff {content : ByteArray} :
    d.read path = .ok content ↔ d.LeadsTo path (.file content) := by
  constructor
  · exact exists_trail_of_readVia
  · rintro ⟨trail, htrail⟩
    exact readVia_of_trail htrail rfl (Nat.le_succ_of_le htrail.length_le)

/-! ## Unlinking -/

theorem lookup_filter_ne (entries : List (LocalPath × LocalEntry)) (path other : LocalPath) :
    (entries.filter (·.1 != path)).lookup other =
      if other = path then none else entries.lookup other := by
  induction entries with
  | nil => simp
  | cons e entries ih =>
    rw [List.lookup_cons]
    by_cases he : e.1 = path
    · rw [List.filter_cons_of_neg (by simpa using he), ih, he]
      by_cases hother : other = path
      · rw [if_pos hother, if_pos hother]
      · rw [if_neg hother, if_neg hother, beq_eq_false_iff_ne.2 hother]
    · rw [List.filter_cons_of_pos (by simpa using he), List.lookup_cons, ih]
      by_cases hother : other = path
      · rw [if_pos hother, if_pos hother, hother, beq_eq_false_iff_ne.2 (Ne.symm he)]
      · rw [if_neg hother, if_neg hother]

/-- Of a file or a link nothing is left, and all else is as it was. -/
theorem find?_unlink (hfind : d.find? path = some entry) (hkind : entry ≠ .directory)
    (other : LocalPath) :
    (d.unlink path).find? other = if other = path then none else d.find? other := by
  have hunlink : d.unlink path = ⟨d.entries.filter (·.1 != path)⟩ := by
    rw [unlink, hfind]
    cases entry with
    | directory => exact absurd rfl hkind
    | file content | link target => rfl
  have hbase : path.isBase = false := by
    by_contra h
    rw [find?, if_pos (by simpa using h)] at hfind
    exact hkind (Option.some.inj hfind).symm
  rw [hunlink, find?, find?, lookup_filter_ne]
  by_cases hother : other = path
  · rw [if_pos hother, if_pos hother, hother, if_neg (by simp [hbase])]
  · rw [if_neg hother, if_neg hother]

theorem Trail.unlink (h : d.Trail target trail entry) {e : LocalEntry}
    (hfind : d.find? path = some e) (hkind : e ≠ .directory) (hout : path ∉ trail) :
    (d.unlink path).Trail target trail entry := by
  induction h with
  | last hzero hthere hend =>
    refine .last hzero ?_ hend
    rw [find?_unlink hfind hkind, if_neg (by rintro rfl; simp at hout), hthere]
  | link hzero hthere _ ih =>
    rw [List.mem_cons, not_or] at hout
    refine .link hzero ?_ (ih hout.2)
    rw [find?_unlink hfind hkind, if_neg (Ne.symm hout.1), hthere]

/-- What a link has led to is still where the link led. -/
theorem leadsTo_unlink_of_link (hfind : d.find? path = some (.link target))
    (h : d.LeadsTo target entry) : (d.unlink path).LeadsTo target entry := by
  obtain ⟨trail, htrail⟩ := h
  refine ⟨trail, htrail.unlink hfind nofun fun hmem => ?_⟩
  exact Trail.not_mem_of_link (htrail.zero_not_mem path hmem) hfind htrail hmem

end Depot.Disk
