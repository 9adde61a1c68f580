import Depot.Proofs.Store.Lookup
import Depot.Proofs.Uri.Below

/-!
# What a listing holds

A listing is put together from the objects below a reference and from the directories that lead to
them. Both are maps by references, and the first one wins (`mem_list_iff`). An object is listed
where it is (`getElem?_objectsBelow`). A directory is listed where the names on the way to an object
lead, once they have been read from the object's reference and put below the base again
(`mem_directoriesBelow_iff`). Whether the way that is written is the way that was read depends on
the names alone: a listing stays below its base whatever the base is, if and only if the way to
every object is steady (`list_isBelow_iff`).
-/

namespace Depot.Store

open Url

variable {s : Store} {area : Area} {base uri : Uri}

/-! ## The objects below a reference -/

theorem mem_below_iff {names : List String} {o : Object} :
    (uri, names, o) ∈ s.below area base ↔
      s.objects[(⟨area, uri⟩ : Key)]? = some o ∧ uri.relativeTo base = some names ∧
        names ≠ [] := by
  simp only [below, List.mem_filterMap, Prod.exists, Std.ExtTreeMap.mem_toList_iff_getElem?_eq_some]
  constructor
  · rintro ⟨k, o', ho, hk⟩
    split at hk
    · next hunder =>
      obtain ⟨rfl, -⟩ := isUnder_iff.1 hunder
      split at hk
      · next name names' hrelative =>
        obtain ⟨rfl, rfl, rfl⟩ := by simpa using hk
        exact ⟨ho, hrelative, List.cons_ne_nil _ _⟩
      · cases hk
    · cases hk
  · rintro ⟨ho, hrelative, hne⟩
    refine ⟨⟨area, uri⟩, o, ho, ?_⟩
    obtain ⟨name, names', rfl⟩ := List.exists_cons_of_ne_nil hne
    have hbelow : uri.IsBelow base := Uri.isBelow_iff_relativeTo.2 ⟨name, names', hrelative⟩
    rw [if_pos (isUnder_iff.2 ⟨rfl, hbelow.1⟩), hrelative]

/-- The objects of a listing. -/
def objectsBelow (s : Store) (area : Area) (base : Uri) : Listing :=
  (s.below area base).foldl (fun l (uri, _, o) => l.insert uri (o.attributes uri)) ∅

/-- The directories of a listing, whether they are objects too or not. -/
def directoriesBelow (s : Store) (area : Area) (base : Uri) : Listing :=
  (s.below area base).foldl (fun l (_, segments, o) =>
    (ancestors base segments).foldl (·.addAncestor o ·) l) ∅

/-! ## Listings in the making -/

namespace Listing

variable {l : Listing} {u : Uri}

theorem mem_foldl_insert (found : List (Uri × List String × Object)) (l : Listing) :
    u ∈ found.foldl (fun l (uri, _, o) => l.insert uri (o.attributes uri)) l ↔
      u ∈ l ∨ ∃ x ∈ found, x.1 = u := by
  induction found generalizing l with
  | nil => simp
  | cons x found ih =>
    simp only [List.foldl_cons, ih, Std.ExtTreeMap.mem_insert,
      Std.LawfulEqCmp.compare_eq_iff_eq, List.mem_cons, exists_eq_or_imp]
    tauto

/-- What an insertion reports of an object is what the object says of itself. -/
theorem foldl_insert_sound {reports : Uri → FileAttributes → Prop}
    (found : List (Uri × List String × Object))
    (hfound : ∀ x ∈ found, reports x.1 (x.2.2.attributes x.1)) (l : Listing)
    (hl : ∀ u a, l[u]? = some a → reports u a) :
    ∀ u a, (found.foldl (fun l (uri, _, o) => l.insert uri (o.attributes uri)) l)[u]? = some a →
      reports u a := by
  induction found generalizing l with
  | nil => exact hl
  | cons x found ih =>
    refine ih (fun y hy => hfound y (List.mem_cons_of_mem _ hy)) _ fun u a h => ?_
    rw [Std.ExtTreeMap.getElem?_insert] at h
    split at h
    · next heq =>
      rw [← Std.LawfulEqCmp.eq_of_compare heq, ← Option.some.inj h]
      exact hfound x List.mem_cons_self
    · exact hl u a h

theorem mem_addAncestor_iff (o : Object) (dir : Uri × String) :
    u ∈ l.addAncestor o dir ↔ dir.1 = u ∨ u ∈ l := by
  rw [addAncestor, Std.ExtTreeMap.mem_alter]
  split
  · next heq =>
    have hdir : dir.1 = u := Std.LawfulEqCmp.eq_of_compare heq
    simp only [hdir, true_or, iff_true]
    split <;> rfl
  · next hne =>
    have hdir : dir.1 ≠ u := fun e => hne (e ▸ Std.ReflCmp.compare_self)
    simp [hdir]

theorem mem_foldl_addAncestor (o : Object) (dirs : List (Uri × String)) (l : Listing) :
    u ∈ dirs.foldl (·.addAncestor o ·) l ↔ u ∈ l ∨ ∃ dir ∈ dirs, dir.1 = u := by
  induction dirs generalizing l with
  | nil => simp
  | cons dir dirs ih =>
    simp only [List.foldl_cons, ih, mem_addAncestor_iff, List.mem_cons, exists_eq_or_imp]
    tauto

/-- Whatever is reported is reported as a directory. -/
def AllDirectories (l : Listing) : Prop :=
  ∀ (u : Uri) (a : FileAttributes), l[u]? = some a → a.isDirectory = true

theorem allDirectories_addAncestor (hl : l.AllDirectories) (o : Object) (dir : Uri × String) :
    (l.addAncestor o dir).AllDirectories := by
  intro u a h
  rw [addAncestor, Std.ExtTreeMap.getElem?_alter] at h
  split at h
  · -- A directory that is there already stays one, with other times.
    split at h
    · next b hb =>
      rw [← Option.some.inj h]
      exact hl dir.1 b hb
    · rw [← Option.some.inj h]
      rfl
  · exact hl u a h

theorem allDirectories_foldl_addAncestor (o : Object) (dirs : List (Uri × String))
    (hl : l.AllDirectories) : (dirs.foldl (·.addAncestor o ·) l).AllDirectories := by
  induction dirs generalizing l with
  | nil => exact hl
  | cons dir dirs ih => exact ih (allDirectories_addAncestor hl o dir)

/-- The listing with those of another one that it does not have. -/
def orElse (l other : Listing) : Listing :=
  other.foldl (fun l uri a => l.insertIfNew uri a) l

theorem getElem?_foldl_insertIfNew (entries : List (Uri × FileAttributes)) (l : Listing) :
    (entries.foldl (fun l e => l.insertIfNew e.1 e.2) l)[u]? =
      l[u]?.or ((entries.find? fun e => compare e.1 u == .eq).map Prod.snd) := by
  induction entries generalizing l with
  | nil => simp
  | cons e entries ih =>
    rw [List.foldl_cons, ih, Std.ExtTreeMap.getElem?_insertIfNew, List.find?_cons]
    by_cases heq : compare e.1 u = .eq
    · have hu : e.1 = u := Std.LawfulEqCmp.eq_of_compare heq
      cases hl : l[u]? with
      | none =>
        have hmem : u ∉ l := by
          rw [Std.ExtTreeMap.mem_iff_isSome_getElem?, hl]
          exact Bool.false_ne_true
        simp [hu, hmem]
      | some a =>
        have hmem : u ∈ l := by
          rw [Std.ExtTreeMap.mem_iff_isSome_getElem?, hl]
          rfl
        simp [hu, hmem]
    · rw [if_neg fun h => heq h.1, beq_eq_false_iff_ne.2 heq]

/-- The first listing wins. -/
theorem getElem?_orElse (l other : Listing) : (l.orElse other)[u]? = l[u]?.or other[u]? := by
  rw [orElse, Std.ExtTreeMap.foldl_eq_foldl_toList, getElem?_foldl_insertIfNew]
  congr 1
  cases ho : other[u]? with
  | none =>
    have hmem : u ∉ other := by
      rw [Std.ExtTreeMap.mem_iff_isSome_getElem?, ho]
      exact Bool.false_ne_true
    rw [Std.ExtTreeMap.find?_toList_eq_none_iff_not_mem.2 hmem]
    rfl
  | some a =>
    have hmem : u ∈ other := by
      rw [Std.ExtTreeMap.mem_iff_isSome_getElem?, ho]
      rfl
    rw [Std.ExtTreeMap.find?_toList_eq_some_iff_getKey?_eq_some_and_getElem?_eq_some.2
      ⟨Std.ExtTreeMap.getKey?_eq_some hmem, ho⟩]
    rfl

end Listing

/-! ## What is listed -/

/-- An object below the base is listed where it is, with what it says of itself. -/
theorem getElem?_objectsBelow (s : Store) (area : Area) (base uri : Uri) :
    (s.objectsBelow area base)[uri]? =
      if uri.IsBelow base then (s.objects[(⟨area, uri⟩ : Key)]?).map (·.attributes uri)
      else none := by
  -- What is listed is of an object below the base, and each such object is listed.
  have hsound : ∀ u a, (s.objectsBelow area base)[u]? = some a →
      u.IsBelow base ∧ (s.objects[(⟨area, u⟩ : Key)]?).map (·.attributes u) = some a := by
    refine Listing.foldl_insert_sound _ (fun ⟨u, names, o⟩ hx => ?_) ∅ (by simp)
    obtain ⟨ho, hrelative, hne⟩ := mem_below_iff.1 hx
    obtain ⟨name, names', rfl⟩ := List.exists_cons_of_ne_nil hne
    exact ⟨Uri.isBelow_iff_relativeTo.2 ⟨name, names', hrelative⟩, by rw [ho]; rfl⟩
  cases hl : (s.objectsBelow area base)[uri]? with
  | some a =>
    obtain ⟨hbelow, ho⟩ := hsound uri a hl
    rw [if_pos hbelow, ho]
  | none =>
    split
    · next hbelow =>
      cases ho : s.objects[(⟨area, uri⟩ : Key)]? with
      | none => rfl
      | some o =>
        obtain ⟨name, names, hrelative⟩ := Uri.isBelow_iff_relativeTo.1 hbelow
        have hx : (uri, name :: names, o) ∈ s.below area base :=
          mem_below_iff.2 ⟨ho, hrelative, List.cons_ne_nil _ _⟩
        have hmem : uri ∈ s.objectsBelow area base :=
          (Listing.mem_foldl_insert _ _).2 (Or.inr ⟨_, hx, rfl⟩)
        rw [Std.ExtTreeMap.mem_iff_isSome_getElem?, hl] at hmem
        cases hmem
    · rfl

theorem mem_ancestors_iff {names : List String} :
    (∃ dir ∈ ancestors base names, dir.1 = uri) ↔
      ∃ n, 0 < n ∧ n < names.length ∧ uri = base.join (names.take n) := by
  simp only [ancestors, List.mem_map, Prod.exists, List.mem_zipIdx_iff_getElem?]
  constructor
  · rintro ⟨dir, name, ⟨name', i, hi, hdir⟩, rfl⟩
    obtain ⟨rfl, -⟩ := Prod.mk.injEq .. ▸ hdir
    obtain ⟨hlt, -⟩ := List.getElem?_eq_some_iff.1 hi
    rw [List.length_dropLast] at hlt
    exact ⟨i + 1, by omega, by omega, rfl⟩
  · rintro ⟨n, hpos, hlt, rfl⟩
    have hi : n - 1 < names.dropLast.length := by rw [List.length_dropLast]; omega
    refine ⟨_, _, ⟨names.dropLast[n - 1], n - 1, List.getElem?_eq_getElem hi, rfl⟩, ?_⟩
    rw [Nat.sub_add_cancel hpos]

/-- A directory is listed for each name but the last on the way to an object. -/
theorem mem_directoriesBelow_iff :
    uri ∈ s.directoriesBelow area base ↔
      ∃ u o names n, s.objects[(⟨area, u⟩ : Key)]? = some o ∧ u.relativeTo base = some names ∧
        0 < n ∧ n < names.length ∧ uri = base.join (names.take n) := by
  have hfold : ∀ (found : List (Uri × List String × Object)) (l : Listing),
      uri ∈ found.foldl (fun l (_, segments, o) =>
          (ancestors base segments).foldl (·.addAncestor o ·) l) l ↔
        uri ∈ l ∨ ∃ x ∈ found, ∃ dir ∈ ancestors base x.2.1, dir.1 = uri := by
    intro found
    induction found with
    | nil => simp
    | cons x found ih =>
      intro l
      simp only [List.foldl_cons, ih, Listing.mem_foldl_addAncestor, List.mem_cons,
        exists_eq_or_imp]
      exact or_assoc
  simp only [directoriesBelow, hfold, Std.ExtTreeMap.not_mem_empty, false_or, mem_ancestors_iff]
  constructor
  · rintro ⟨⟨u, names, o⟩, hx, n, hpos, hlt, rfl⟩
    obtain ⟨ho, hrelative, -⟩ := mem_below_iff.1 hx
    exact ⟨u, o, names, n, ho, hrelative, hpos, hlt, rfl⟩
  · rintro ⟨u, o, names, n, ho, hrelative, hpos, hlt, rfl⟩
    have hne : names ≠ [] := List.ne_nil_of_length_pos (by omega)
    exact ⟨(u, names, o), mem_below_iff.2 ⟨ho, hrelative, hne⟩, n, hpos, hlt, rfl⟩

theorem allDirectories_directoriesBelow (s : Store) (area : Area) (base : Uri) :
    (s.directoriesBelow area base).AllDirectories := by
  have hfold : ∀ (found : List (Uri × List String × Object)) (l : Listing), l.AllDirectories →
      (found.foldl (fun l (_, segments, o) =>
        (ancestors base segments).foldl (·.addAncestor o ·) l) l).AllDirectories := by
    intro found
    induction found with
    | nil => exact fun l hl => hl
    | cons x found ih =>
      exact fun l hl => ih _ (Listing.allDirectories_foldl_addAncestor x.2.2 _ hl)
  exact hfold _ ∅ fun u a h => by simp at h

theorem list_eq (s : Store) (area : Area) (base : Uri) :
    s.list area base = ((s.objectsBelow area base).orElse
      (s.directoriesBelow area base)).toList.map fun e => ⟨e.1, e.2⟩ :=
  rfl

/-- A listing shows what is an object below the base, and what else is a directory on the way to
one. -/
theorem mem_list_iff {e : Entry} :
    e ∈ s.list area base ↔
      ((s.objectsBelow area base)[e.uri]?.or (s.directoriesBelow area base)[e.uri]?) =
        some e.attributes := by
  simp only [list_eq, List.mem_map, Prod.exists, Std.ExtTreeMap.mem_toList_iff_getElem?_eq_some,
    Listing.getElem?_orElse]
  constructor
  · rintro ⟨uri, a, h, rfl⟩
    exact h
  · intro h
    exact ⟨e.uri, e.attributes, h, rfl⟩

/-! ## Staying below the base -/

theorem isBelow_of_mem_objectsBelow {a : FileAttributes}
    (h : (s.objectsBelow area base)[uri]? = some a) : uri.IsBelow base := by
  rw [getElem?_objectsBelow] at h
  by_contra hbelow
  rw [if_neg hbelow] at h
  cases h

/-- Files are objects, and say of themselves what is listed. -/
theorem exists_object_of_file {e : Entry} (he : e ∈ s.list area base)
    (hfile : e.attributes.isDirectory = false) :
    e.uri.IsBelow base ∧ ∃ o, s.find? area e.uri = some o ∧ e.attributes = o.attributes e.uri := by
  have h := mem_list_iff.1 he
  cases ho : (s.objectsBelow area base)[e.uri]? with
  | some a =>
    have hbelow := isBelow_of_mem_objectsBelow ho
    rw [ho, Option.some_or, Option.some.injEq] at h
    rw [getElem?_objectsBelow, if_pos hbelow, h] at ho
    obtain ⟨o, hobject, hattributes⟩ := Option.map_eq_some_iff.1 ho
    exact ⟨hbelow, o, hobject, hattributes.symm⟩
  | none =>
    rw [ho, Option.none_or] at h
    rw [allDirectories_directoriesBelow s area base e.uri e.attributes h] at hfile
    cases hfile

/-- What an object says of itself tells a file from a directory. -/
theorem Object.isDirectory_attributes_eq_false_iff {o : Object} :
    (o.attributes uri).isDirectory = false ↔ o.kind = .file := by
  cases hkind : o.kind <;> simp [FileAttributes.isDirectory, Object.attributes, hkind]

/-- What is listed as a file is one. -/
theorem exists_file_of_mem_list {e : Entry} (he : e ∈ s.list area base)
    (hfile : e.attributes.isDirectory = false) :
    ∃ o, s.find? area e.uri = some o ∧ o.kind = .file := by
  obtain ⟨-, o, ho, hattributes⟩ := exists_object_of_file he hfile
  rw [hattributes, Object.isDirectory_attributes_eq_false_iff] at hfile
  exact ⟨o, ho, hfile⟩

/-- Files are listed where they are. -/
theorem isBelow_of_file {e : Entry} (he : e ∈ s.list area base)
    (hfile : e.attributes.isDirectory = false) : e.uri.IsBelow base :=
  (exists_object_of_file he hfile).1

/-- The way to every object of an area is steady. -/
def SteadyIn (s : Store) (area : Area) : Prop :=
  ∀ uri, s.contains area uri = true → uri.Steady

theorem contains_iff : s.contains area uri = true ↔
    ∃ o, s.objects[(⟨area, uri⟩ : Key)]? = some o := by
  rw [contains, find?_eq, Option.isSome_iff_exists]

/-- The names from the base to a directory on a steady way lead down. -/
theorem leadsDown_of_mem_take {u : Uri} {names : List String} {n : Nat} (hu : u.Steady)
    (hrelative : u.relativeTo base = some names) (hlt : n < names.length) :
    ∀ name ∈ names.take n, LeadsDown name := by
  intro name hname
  unfold Uri.relativeTo at hrelative
  split at hrelative
  · rw [← Option.some.inj hrelative] at hname hlt
    rw [← List.map_take] at hname
    rw [List.length_map, List.length_drop] at hlt
    obtain ⟨segment, hsegment, rfl⟩ := List.mem_map.1 hname
    -- The segment of the name is one of the first so many, and not the last of all.
    refine hu segment ?_
    rw [List.dropLast_eq_take]
    refine List.take_subset_take_left (i := base.segments.length + n) _ (by omega) ?_
    rw [List.take_add]
    exact List.mem_append_right _ hsegment
  · cases hrelative

/-- Where all ways are steady, nothing is listed but what is below the base. -/
theorem isBelow_of_steadyIn (hs : s.SteadyIn area) {e : Entry} (he : e ∈ s.list area base) :
    e.uri.IsBelow base := by
  have h := mem_list_iff.1 he
  cases ho : (s.objectsBelow area base)[e.uri]? with
  | some a => exact isBelow_of_mem_objectsBelow ho
  | none =>
    rw [ho, Option.none_or] at h
    have hmem : e.uri ∈ s.directoriesBelow area base := by
      rw [Std.ExtTreeMap.mem_iff_isSome_getElem?, h]
      rfl
    obtain ⟨u, o, names, n, hu, hrelative, hpos, hlt, huri⟩ := mem_directoriesBelow_iff.1 hmem
    have hsteady : u.Steady := hs u (contains_iff.2 ⟨o, hu⟩)
    have hne : names.take n ≠ [] := List.ne_nil_of_length_pos (by rw [List.length_take]; omega)
    rw [huri]
    exact Uri.isBelow_join hne (leadsDown_of_mem_take hsteady hrelative hlt) base

/-- Every directory on the way to an object is listed, as an object or not. -/
theorem exists_mem_list_of_directory (h : uri ∈ s.directoriesBelow area base) :
    ∃ e ∈ s.list area base, e.uri = uri := by
  rw [Std.ExtTreeMap.mem_iff_isSome_getElem?, Option.isSome_iff_exists] at h
  obtain ⟨a, ha⟩ := h
  cases ho : (s.objectsBelow area base)[uri]? with
  | some b => exact ⟨⟨uri, b⟩, mem_list_iff.2 (by simp only [ho, Option.some_or]), rfl⟩
  | none => exact ⟨⟨uri, a⟩, mem_list_iff.2 (by simp only [ho, ha, Option.none_or]), rfl⟩

/-- A name on the way to an object that does not lead down is listed at a place that is not below
the directory that it is in. -/
theorem exists_mem_list_of_not_leadsDown {u : Uri} {segment : String}
    (hu : s.contains area u = true) (hsegment : segment ∈ u.segments.dropLast)
    (hname : ¬LeadsDown (Percent.decode segment)) :
    ∃ base, ∃ e ∈ s.list area base, ¬e.uri.IsBelow base := by
  obtain ⟨o, ho⟩ := contains_iff.1 hu
  obtain ⟨i, hi, rfl⟩ := List.mem_iff_getElem.1 hsegment
  rw [List.getElem_dropLast] at hname
  rw [List.length_dropLast] at hi
  -- The directory is what the segments before lead to.
  obtain ⟨base, hbase⟩ := u.exists_segments_eq_take i
  have hsegments : u.segments = base.segments ++ u.segments.drop i := by
    rw [hbase, List.take_append_drop]
  have hlength : base.segments.length = i := by
    rw [hbase, List.length_take]
    omega
  have hrelative : u.relativeTo base = some ((u.segments.drop i).map Percent.decode) := by
    rw [Uri.relativeTo, if_pos (Uri.startsWith_of_segments hsegments), hlength]
  have hfirst : ((u.segments.drop i).map Percent.decode).take 1 =
      [Percent.decode u.segments[i]] := by
    rw [List.drop_eq_getElem_cons (by omega)]
    rfl
  have hmem : base.join [Percent.decode u.segments[i]] ∈ s.directoriesBelow area base := by
    refine mem_directoriesBelow_iff.2 ⟨u, o, _, 1, ho, hrelative, Nat.one_pos, ?_, by rw [hfirst]⟩
    rw [List.length_map, List.length_drop]
    omega
  obtain ⟨e, he, heq⟩ := exists_mem_list_of_directory hmem
  refine ⟨base, e, he, ?_⟩
  rw [heq, Uri.isBelow_join_iff]
  exact hname

/-- No listing leaves its base if and only if the way to every object is steady. -/
theorem list_isBelow_iff :
    (∀ base, ∀ e ∈ s.list area base, e.uri.IsBelow base) ↔ s.SteadyIn area := by
  constructor
  · intro h u hu segment hsegment
    by_contra hname
    obtain ⟨base, e, he, hout⟩ := exists_mem_list_of_not_leadsDown hu hsegment hname
    exact hout (h base e he)
  · intro hs base e he
    exact isBelow_of_steadyIn hs he

end Depot.Store
