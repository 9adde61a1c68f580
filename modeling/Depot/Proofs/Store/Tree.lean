import Mathlib.Order.Bounds.Basic
import Mathlib.Order.Bounds.Image
import Depot.Proofs.Layout.Named
import Depot.Proofs.Store.Listing

/-!
# The tree that a listing shows

Where all objects are at references that names lead to, a listing is the tree of what is stored
below its base: the objects, as they are, and the directories that lead to them and are no objects
(`mem_list_iff_of_named`). Such a directory is as old as the oldest object below it, and was changed
when the youngest one was (`FileAttributes.Spans`). The invariant of a listing in the making is that
its directories span what has been gathered for them so far, whatever the order (`Listing.Tells`).
-/

namespace Depot

/-- What is reported of a directory that is there because objects are below it. -/
structure FileAttributes.Spans (a : FileAttributes) (dir : Uri) (objects : Set Store.Object) :
    Prop where
  fileName : dir.fileName? = some a.fileName
  kind : a.kind = .directory
  size : a.size = 0
  created : IsLeast (Store.Object.created '' objects) a.created
  modified : IsGreatest (Store.Object.modified '' objects) a.modified

namespace FileAttributes.Spans

variable {a b : FileAttributes} {dir : Uri} {objects : Set Store.Object}

/-- The objects tell all that is reported. -/
theorem eq (ha : a.Spans dir objects) (hb : b.Spans dir objects) : a = b := by
  obtain ⟨name, kind, size, created, modified⟩ := a
  obtain ⟨name', kind', size', created', modified'⟩ := b
  have hname : name = name' := Option.some.inj (ha.fileName.symm.trans hb.fileName)
  have hkind : kind = kind' := ha.kind.trans hb.kind.symm
  have hsize : size = size' := ha.size.trans hb.size.symm
  have hcreated : created = created' := ha.created.unique hb.created
  have hmodified : modified = modified' := ha.modified.unique hb.modified
  rw [hname, hkind, hsize, hcreated, hmodified]

theorem nonempty (h : a.Spans dir objects) : objects.Nonempty :=
  Set.image_nonempty.1 h.created.nonempty

/-- Nothing is reported for objects that do not count. -/
theorem sep_iff {p : Prop} :
    a.Spans dir {o | p ∧ o ∈ objects} ↔ p ∧ a.Spans dir objects := by
  constructor
  · intro h
    obtain ⟨o, hp, -⟩ := h.nonempty
    simp only [hp, true_and] at h
    exact ⟨hp, h⟩
  · rintro ⟨hp, h⟩
    simp only [hp, true_and]
    exact h

/-- One object makes a directory. -/
theorem singleton (o : Store.Object) {name : String} (hname : dir.fileName? = some name) :
    Spans ⟨name, .directory, 0, o.created, o.modified⟩ dir {o} where
  fileName := hname
  kind := rfl
  size := rfl
  created := by
    rw [Set.image_singleton]
    exact isLeast_singleton
  modified := by
    rw [Set.image_singleton]
    exact isGreatest_singleton

/-- One more object below a directory. -/
theorem union_singleton (h : a.Spans dir objects) (o : Store.Object) :
    Spans { a with created := min a.created o.created, modified := max a.modified o.modified }
      dir (objects ∪ {o}) where
  fileName := h.fileName
  kind := h.kind
  size := h.size
  created := by
    rw [Set.image_union, Set.image_singleton]
    exact h.created.union isLeast_singleton
  modified := by
    rw [Set.image_union, Set.image_singleton]
    exact h.modified.union isGreatest_singleton

end FileAttributes.Spans

namespace Store

/-! ## Listings in the making -/

namespace Listing

variable {l : Listing} {gathered : Uri → Set Object} {u : Uri} {a : FileAttributes}

/-- A listing shows a directory for whatever objects have been gathered below it. -/
def Tells (l : Listing) (gathered : Uri → Set Object) : Prop :=
  ∀ u : Uri, (l[u]? = none → gathered u = ∅) ∧ ∀ a, l[u]? = some a → a.Spans u (gathered u)

theorem Tells.getElem?_eq_some_iff (hl : l.Tells gathered) :
    l[u]? = some a ↔ a.Spans u (gathered u) := by
  refine ⟨(hl u).2 a, fun ha => ?_⟩
  cases hu : l[u]? with
  | none => exact absurd ((hl u).1 hu) ha.nonempty.ne_empty
  | some b => rw [((hl u).2 b hu).eq ha]

theorem tells_empty : (∅ : Listing).Tells fun _ => ∅ :=
  fun _ => ⟨fun _ => rfl, fun _ h => by simp at h⟩

/-- A directory that leads to one more object. -/
theorem Tells.addAncestor (hl : l.Tells gathered) (o : Object) {dir : Uri × String}
    (hname : dir.1.fileName? = some dir.2) :
    (l.addAncestor o dir).Tells
      (Function.update gathered dir.1 (gathered dir.1 ∪ {o})) := by
  intro u
  rw [Listing.addAncestor, Std.ExtTreeMap.getElem?_alter]
  by_cases heq : compare dir.1 u = .eq
  · obtain rfl : dir.1 = u := Std.LawfulEqCmp.eq_of_compare heq
    rw [if_pos heq, Function.update_self]
    cases hu : l[dir.1]? with
    | none =>
      -- The first object that the directory leads to.
      rw [(hl dir.1).1 hu, Set.empty_union]
      refine ⟨fun h => absurd h (Option.some_ne_none _), fun a ha => ?_⟩
      rw [← Option.some.inj ha]
      exact .singleton o hname
    | some b =>
      refine ⟨fun h => absurd h (Option.some_ne_none _), fun a ha => ?_⟩
      rw [← Option.some.inj ha]
      exact ((hl dir.1).2 b hu).union_singleton o
  · have hne : u ≠ dir.1 := fun e => heq (e ▸ Std.ReflCmp.compare_self)
    rw [if_neg heq, Function.update_of_ne hne]
    exact hl u

/-- Directories are added in any order, each with an object that it leads to. -/
theorem tells_foldl (found : List (Object × Uri × String))
    (hnames : ∀ x ∈ found, x.2.1.fileName? = some x.2.2) :
    (found.foldl (fun l x => l.addAncestor x.1 x.2) ∅ : Listing).Tells
      fun u => {o | ∃ name, (o, u, name) ∈ found} := by
  induction found using List.reverseRecOn with
  | nil => simpa using tells_empty
  | append_singleton found x ih =>
    rw [List.foldl_concat]
    have hl := (ih fun y hy => hnames y (List.mem_append_left _ hy)).addAncestor x.1
      (hnames x (List.mem_append_right _ (List.mem_singleton_self x)))
    have hgathered : (fun u => {o | ∃ name, (o, u, name) ∈ found ++ [x]}) =
        Function.update (fun u => {o | ∃ name, (o, u, name) ∈ found}) x.2.1
          ({o | ∃ name, (o, x.2.1, name) ∈ found} ∪ {x.1}) := by
      funext u
      obtain ⟨o, dir, name⟩ := x
      by_cases hu : u = dir
      · subst hu
        ext o'
        simp [exists_or, or_comm]
      · ext o'
        simp [hu]
    rw [hgathered]
    exact hl

end Listing

/-! ## The directories on the way to named objects -/

variable {s : Store} {area : Area} {names rest : List String} {uri : Uri}

/-- All objects of an area are where names lead to. -/
def NamedIn (s : Store) (area : Area) : Prop :=
  ∀ uri, s.contains area uri = true → uri.IsNamed

theorem NamedIn.isNamed (hs : s.NamedIn area) {o : Object} (ho : s.find? area uri = some o) :
    uri.IsNamed :=
  hs uri (contains_iff.2 ⟨o, ho⟩)

/-- The directories on a way are what it begins with. -/
theorem mem_ancestors_iff_append {base dir : Uri} {name : String} :
    (dir, name) ∈ ancestors base rest ↔
      ∃ before after, after ≠ [] ∧ rest = before ++ name :: after ∧
        dir = base.join (before ++ [name]) := by
  simp only [ancestors, List.mem_map, Prod.exists, List.mem_zipIdx_iff_getElem?, Prod.mk.injEq]
  constructor
  · rintro ⟨_, i, hi, rfl, rfl⟩
    obtain ⟨hlt, hname⟩ := List.getElem?_eq_some_iff.1 hi
    rw [List.getElem_dropLast] at hname
    rw [List.length_dropLast] at hlt
    have hsplit : rest = rest.take i ++ rest[i] :: rest.drop (i + 1) := by
      rw [List.getElem_cons_drop, List.take_append_drop]
    refine ⟨rest.take i, rest.drop (i + 1), ?_, hname ▸ hsplit, ?_⟩
    · exact List.ne_nil_of_length_pos (by rw [List.length_drop]; omega)
    · rw [List.take_succ_eq_append_getElem (by omega), hname]
  · rintro ⟨before, after, hne, rfl, rfl⟩
    refine ⟨name, before.length, ?_, ?_, rfl⟩
    · rw [List.dropLast_append_of_ne_nil (List.cons_ne_nil _ _), List.dropLast_cons_of_ne_nil hne]
      simp
    · rw [List.take_length_add_append, List.take_succ_cons, List.take_zero]

/-- On a way of names, a directory is what names lead to between the base and the end. -/
theorem mem_ancestors_ofNames_iff (hne : names ≠ []) (hnames : ∀ n ∈ names ++ rest, IsPiece n)
    {dir : Uri} {name : String} :
    (dir, name) ∈ ancestors (.ofNames names) rest ↔
      dir.fileName? = some name ∧ dir.IsNamed ∧ dir.IsBelow (.ofNames names) ∧
        (Uri.ofNames (names ++ rest)).IsBelow dir := by
  have hparts : ∀ n ∈ names ++ rest, IsPart n := fun n hn => (hnames n hn).1
  have hbase : ∀ n ∈ names, IsPart n := fun n hn => hparts n (List.mem_append_left _ hn)
  rw [mem_ancestors_iff_append]
  constructor
  · rintro ⟨before, after, hafter, rfl, rfl⟩
    have hdir : ∀ n ∈ names ++ (before ++ [name]), IsPiece n :=
      fun n hn => hnames n (by simp at hn ⊢; tauto)
    rw [Uri.join_ofNames hne hbase]
    refine ⟨?_, ⟨_, hdir, rfl⟩, ?_, ?_⟩
    · rw [← List.append_assoc] at hdir ⊢
      exact Uri.fileName?_ofNames fun n hn => (hdir n hn).1
    · exact (Uri.isBelow_ofNames (fun n hn => (hdir n hn).1) hbase).2 ⟨_, by simp, rfl⟩
    · exact (Uri.isBelow_ofNames hparts fun n hn => (hdir n hn).1).2 ⟨after, hafter, by simp⟩
  · rintro ⟨hname, ⟨others, hothers, rfl⟩, hbelow, habove⟩
    have hdir : ∀ n ∈ others, IsPart n := fun n hn => (hothers n hn).1
    obtain ⟨way, hway, rfl⟩ := (Uri.isBelow_ofNames hdir hbase).1 hbelow
    obtain ⟨after, hafter, hrest⟩ := (Uri.isBelow_ofNames hparts hdir).1 habove
    obtain ⟨before, last, rfl⟩ := (List.eq_nil_or_concat way).resolve_left hway
    have hlast : last = name := by
      rw [List.concat_eq_append, ← List.append_assoc] at hdir hname
      rw [Uri.fileName?_ofNames hdir] at hname
      exact Option.some.inj hname
    refine ⟨before, after, hafter, ?_, ?_⟩
    · rw [List.append_assoc] at hrest
      rw [List.append_cancel_left hrest, ← hlast]
      simp
    · rw [Uri.join_ofNames hne hbase, List.concat_eq_append, hlast]

/-- The objects of an area strictly below a reference. -/
def objectsUnder (s : Store) (area : Area) (dir : Uri) : Set Object :=
  {o | ∃ u, s.find? area u = some o ∧ u.IsBelow dir}

/-- The directories that lead to objects, each with an object that it leads to. -/
def waysBelow (s : Store) (area : Area) (base : Uri) : List (Object × Uri × String) :=
  (s.below area base).flatMap fun (_, segments, o) =>
    (ancestors base segments).map fun dir => (o, dir)

theorem directoriesBelow_eq (s : Store) (area : Area) (base : Uri) :
    s.directoriesBelow area base =
      (s.waysBelow area base).foldl (fun l x => l.addAncestor x.1 x.2) ∅ := by
  simp only [directoriesBelow, waysBelow, List.foldl_flatMap, List.foldl_map]

/-! ## The order of a listing -/

/-- Listings are in the order of the references as they are written. -/
theorem ordered_list (s : Store) (area : Area) (base : Uri) :
    (s.list area base).Pairwise fun d e => d.uri.text < e.uri.text := by
  rw [list_eq, List.pairwise_map]
  refine Std.ExtTreeMap.ordered_keys_toList.imp fun {d e} h => ?_
  have hlt : compareOfLessAndEq d.1.text e.1.text = .lt := h
  exact compareOfLessAndEq_eq_lt.1 hlt

/-- A reference is listed once. -/
theorem eq_of_mem_list {base : Uri} {d e : Entry} (hd : d ∈ s.list area base)
    (he : e ∈ s.list area base) (h : d.uri = e.uri) : d = e := by
  rw [mem_list_iff] at hd he
  rw [h, he] at hd
  cases d
  cases e
  cases h
  cases hd
  rfl

/-! ## Listings of named objects -/

section NamedObjects

variable (hs : s.NamedIn area) (hne : names ≠ []) (hnames : ∀ n ∈ names, IsPart n)

include hs hne hnames

theorem mem_waysBelow_iff {o : Object} {dir : Uri} {name : String} :
    (o, dir, name) ∈ s.waysBelow area (.ofNames names) ↔
      dir.fileName? = some name ∧ dir.IsNamed ∧ dir.IsBelow (.ofNames names) ∧
        o ∈ s.objectsUnder area dir := by
  simp only [waysBelow, List.mem_flatMap, List.mem_map, Prod.mk.injEq, Prod.exists]
  constructor
  · rintro ⟨u, rest, _, hx, _, _, hdir, rfl, rfl, rfl⟩
    obtain ⟨ho, hrelative, -⟩ := mem_below_iff.1 hx
    obtain ⟨rfl, hpieces⟩ := Uri.eq_ofNames_of_relativeTo hnames (hs.isNamed ho) hrelative
    obtain ⟨hname, hnamed, hbelow, habove⟩ := (mem_ancestors_ofNames_iff hne hpieces).1 hdir
    exact ⟨hname, hnamed, hbelow, _, ho, habove⟩
  · rintro ⟨hname, hnamed, hbelow, u, ho, habove⟩
    have hu : u.IsBelow (.ofNames names) := habove.trans hbelow
    obtain ⟨first, others, hrelative⟩ := Uri.isBelow_iff_relativeTo.1 hu
    obtain ⟨rfl, hpieces⟩ := Uri.eq_ofNames_of_relativeTo hnames (hs.isNamed ho) hrelative
    exact ⟨_, _, o, mem_below_iff.2 ⟨ho, hrelative, List.cons_ne_nil _ _⟩, dir, name,
      (mem_ancestors_ofNames_iff hne hpieces).2 ⟨hname, hnamed, hbelow, habove⟩, rfl, rfl, rfl⟩

/-- What is listed as a directory tells of all objects that it leads to. -/
theorem tells_directoriesBelow :
    (s.directoriesBelow area (.ofNames names)).Tells fun dir =>
      {o | (dir.IsNamed ∧ dir.IsBelow (.ofNames names)) ∧ o ∈ s.objectsUnder area dir} := by
  have hways := @mem_waysBelow_iff s area names hs hne hnames
  have htells := Listing.tells_foldl (s.waysBelow area (.ofNames names))
    fun ⟨o, dir, name⟩ hx => (hways.1 hx).1
  rw [directoriesBelow_eq]
  convert htells using 2 with dir
  ext o
  simp only [Set.mem_ofPred_eq, hways]
  constructor
  · rintro ⟨⟨hnamed, hbelow⟩, hleads⟩
    obtain ⟨name, hname⟩ := Uri.exists_fileName?_of_isBelow hbelow
    exact ⟨name, hname, hnamed, hbelow, hleads⟩
  · rintro ⟨name, -, hnamed, hbelow, hleads⟩
    exact ⟨⟨hnamed, hbelow⟩, hleads⟩

/-- A listing shows the objects below its base as they are, and the directories that lead to them
and are no objects. -/
theorem mem_list_iff_of_named {e : Entry} :
    e ∈ s.list area (.ofNames names) ↔ e.uri.IsBelow (.ofNames names) ∧
      (s.attributes area e.uri = .ok e.attributes ∨
        s.contains area e.uri = false ∧ e.uri.IsNamed ∧
          e.attributes.Spans e.uri (s.objectsUnder area e.uri)) := by
  have hdirectory : (s.directoriesBelow area (.ofNames names))[e.uri]? = some e.attributes ↔
      (e.uri.IsNamed ∧ e.uri.IsBelow (.ofNames names)) ∧
        e.attributes.Spans e.uri (s.objectsUnder area e.uri) := by
    rw [(tells_directoriesBelow hs hne hnames).getElem?_eq_some_iff]
    exact FileAttributes.Spans.sep_iff
  rw [mem_list_iff, getElem?_objectsBelow]
  by_cases hbelow : e.uri.IsBelow (.ofNames names)
  · rw [if_pos hbelow, ← find?_eq]
    cases ho : s.find? area e.uri with
    | some o => simp [attributes, contains, ho, hbelow]
    | none => simp [attributes, contains, ho, hbelow, hdirectory]
  · simp [hbelow, hdirectory]

theorem isNamed_of_mem_list {e : Entry} (he : e ∈ s.list area (.ofNames names)) :
    e.uri.IsNamed := by
  obtain ⟨-, hobject | ⟨-, hnamed, -⟩⟩ := (mem_list_iff_of_named hs hne hnames).1 he
  · unfold attributes at hobject
    split at hobject
    · cases hobject
    · next o ho => exact hs.isNamed ho
  · exact hnamed

/-- For each place below the base that leads to an object there is one entry, however the place is
written. -/
theorem existsUnique_mem_list {dir : Uri} (hdir : dir.IsBelow (.ofNames names))
    (hleads : (s.objectsUnder area dir).Nonempty) :
    ∃! e, e ∈ s.list area (.ofNames names) ∧ e.uri.segments = dir.segments := by
  obtain ⟨o, u, ho, hu⟩ := hleads
  obtain ⟨place, hplace, hsegments⟩ := (hs.isNamed ho).exists_segments_eq hu.1
  have hbelow : place.IsBelow (.ofNames names) := (Uri.isBelow_congr hsegments rfl).2 hdir
  have hunder : u.IsBelow place := (Uri.isBelow_congr rfl hsegments).2 hu
  have hdirectory : place ∈ s.directoriesBelow area (.ofNames names) := by
    rw [Std.ExtTreeMap.mem_iff_isSome_getElem?, Option.isSome_iff_ne_none]
    intro hnone
    -- A directory that leads to an object cannot be missing.
    have hempty := (tells_directoriesBelow hs hne hnames place).1 hnone
    exact Set.eq_empty_iff_forall_notMem.1 hempty o ⟨⟨hplace, hbelow⟩, u, ho, hunder⟩
  obtain ⟨d, hd, hdplace⟩ := exists_mem_list_of_directory hdirectory
  rw [← hdplace] at hplace hsegments
  refine ⟨d, ⟨hd, hsegments⟩, ?_⟩
  rintro e ⟨he, hsame⟩
  refine eq_of_mem_list he hd ?_
  exact (isNamed_of_mem_list hs hne hnames he).eq_of_segments hplace (hsame.trans hsegments.symm)

/-- Whatever is listed is an object, or leads to one. -/
theorem exists_object_of_mem_list {e : Entry} (he : e ∈ s.list area (.ofNames names)) :
    ∃ v o, s.find? area v = some o ∧ (v = e.uri ∨ v.IsBelow e.uri) := by
  obtain ⟨-, hobject | ⟨-, -, hspans⟩⟩ := (mem_list_iff_of_named hs hne hnames).1 he
  · unfold attributes at hobject
    split at hobject
    · cases hobject
    · next o ho => exact ⟨e.uri, o, ho, Or.inl rfl⟩
  · obtain ⟨o, v, ho, hbelow⟩ := hspans.nonempty
    exact ⟨v, o, ho, Or.inr hbelow⟩

/-- An object below the base is listed. -/
theorem mem_list_of_find? {o : Object} (ho : s.find? area uri = some o)
    (hbelow : uri.IsBelow (.ofNames names)) :
    ⟨uri, o.attributes uri⟩ ∈ s.list area (.ofNames names) := by
  refine (mem_list_iff_of_named hs hne hnames).2 ⟨hbelow, Or.inl ?_⟩
  rw [attributes, ho]

/-- A place below the base, or something below the place, is listed if and only if an object is
there or below. -/
theorem exists_mem_list_startsWith_iff {u : Uri} (hu : u.IsBelow (.ofNames names)) :
    (∃ e ∈ s.list area (.ofNames names), e.uri.startsWith u = true) ↔
      ∃ v, s.contains area v = true ∧ v.startsWith u = true := by
  constructor
  · rintro ⟨e, he, hstarts⟩
    obtain ⟨v, o, ho, hv⟩ := exists_object_of_mem_list hs hne hnames he
    refine ⟨v, contains_iff.2 ⟨o, ho⟩, ?_⟩
    rcases hv with rfl | hbelow
    · exact hstarts
    · exact Uri.startsWith_trans hbelow.1 hstarts
  · rintro ⟨v, hv, hstarts⟩
    obtain ⟨o, ho⟩ := contains_iff.1 hv
    have hlength : u.segments.length ≤ v.segments.length := by
      rw [Uri.startsWith, List.isPrefixOf_iff_prefix] at hstarts
      exact hstarts.length_le
    have hbelow : v.IsBelow (.ofNames names) :=
      ⟨Uri.startsWith_trans hstarts hu.1, Nat.lt_of_lt_of_le hu.2 hlength⟩
    exact ⟨_, mem_list_of_find? hs hne hnames ho hbelow, hstarts⟩

end NamedObjects

/-! ## Removing named objects -/

theorem NamedIn.remove (hs : s.NamedIn area) (u : Uri) : (s.remove area u).2.NamedIn area := by
  intro v hv
  obtain ⟨o, ho⟩ := contains_iff.1 hv
  exact hs.isNamed (getElem?_of_remove ho)

/-- A removal of what is at a place leaves nothing there, and what is below if the place does not
hold the mark of a directory. -/
theorem exists_left_iff {u : Uri} (hs : s.NamedIn area) (hu : u.IsNamed) :
    (∃ v, (s.remove area u).2.contains area v = true ∧ v.startsWith u = true) ↔
      s.holdsDirectory ⟨area, u⟩ = false ∧ (s.objectsUnder area u).Nonempty := by
  constructor
  · rintro ⟨v, hv, hstarts⟩
    obtain ⟨o, ho⟩ := contains_iff.1 hv
    rw [getElem?_remove] at ho
    split at ho
    · cases ho
    · next hkept =>
      obtain ⟨hne, hbranch⟩ := not_or.1 hkept
      have hunder : (⟨area, v⟩ : Key).isUnder area u = true := isUnder_iff.2 ⟨rfl, hstarts⟩
      have hbelow : v.IsBelow u :=
        (((hs.isNamed ho).startsWith_iff hu).1 hstarts).resolve_left fun h => hne (by rw [h])
      exact ⟨by simpa [hunder] using hbranch, o, v, ho, hbelow⟩
  · rintro ⟨hmark, o, v, ho, hbelow⟩
    refine ⟨v, contains_iff.2 ⟨o, ?_⟩, hbelow.1⟩
    have hne : (⟨area, v⟩ : Key) ≠ ⟨area, u⟩ := by
      rintro ⟨⟩
      exact Nat.lt_irrefl _ hbelow.2
    rw [getElem?_remove, if_neg (by simp [hne, hmark]), ← find?_eq, ho]

end Store

end Depot
