import Depot.Store

/-!
# What an operation does to each key

The theory of the store looks at it key by key: `s.objects[k]?` is the object under `k`, and every
operation is described by what is under a key afterwards.

* `getElem?_insert`, `getElem?_erase`, `getElem?_prune` are the three ways the store changes.
* `write_eq` and `makeDirectory_eq` say that writing and making a directory look at their own key
  only, and `remove_eq` that a removal is an erasure or the cutting of a branch.
* `mem_keysUnder_iff` and `ordered_keysUnder` say which keys a branch has, and in which order.
* `below_congr` and `keysUnder_congr` say that whatever is asked of a branch depends on the objects
  of the branch alone.
-/

namespace Depot.Store

/-- Two stores hold the same under some keys. -/
def AgreesOn (keys : Key → Prop) (s t : Store) : Prop :=
  ∀ k, keys k → s.objects[k]? = t.objects[k]?

theorem find?_eq (s : Store) (area : Area) (uri : Uri) :
    s.find? area uri = s.objects[(⟨area, uri⟩ : Key)]? :=
  rfl

theorem contains_eq_false_iff {s : Store} {area : Area} {uri : Uri} :
    s.contains area uri = false ↔ s.find? area uri = none := by
  simp [contains]

/-! ## Keys of a branch -/

theorem startsWith_self (u : Uri) : u.startsWith u = true := by
  simp [Uri.startsWith]

theorem isUnder_iff {k : Key} {area : Area} {base : Uri} :
    k.isUnder area base = true ↔ k.area = area ∧ k.uri.startsWith base = true := by
  simp [Key.isUnder]

/-- A key is in the branch that starts at it. -/
theorem isUnder_self (k : Key) : k.isUnder k.area k.uri = true :=
  isUnder_iff.2 ⟨rfl, startsWith_self k.uri⟩

/-! ## The three ways the store changes -/

theorem getElem?_insert (s : Store) (area : Area) (uri : Uri) (o : Object) (k : Key) :
    (s.insert area uri o).objects[k]? = if k = ⟨area, uri⟩ then some o else s.objects[k]? := by
  simp only [insert, Std.ExtTreeMap.getElem?_insert, Std.LawfulEqCmp.compare_eq_iff_eq]
  simp only [eq_comm]

theorem getElem?_erase (s : Store) (j k : Key) :
    (s.objects.erase j)[k]? = if k = j then none else s.objects[k]? := by
  simp only [Std.ExtTreeMap.getElem?_erase, Std.LawfulEqCmp.compare_eq_iff_eq]
  simp only [eq_comm]

theorem getElem?_prune (s : Store) (area : Area) (base : Uri) (k : Key) :
    (s.prune area base).objects[k]? =
      if k.isUnder area base = true then none else s.objects[k]? := by
  simp only [prune, Std.ExtTreeMap.getElem?_filter']
  by_cases h : k.isUnder area base = true
  · simp [h]
  · -- A key that is not in the branch passes the filter.
    simp only [h, Bool.not_false, if_false, Bool.false_eq_true]
    cases s.objects[k]? <;> rfl

/-! ## Writing and making a directory -/

/-- The file that a write leaves in the place of what was there. -/
def writtenOver (now : Int) (uri : Uri) (content : ByteArray) :
    Option Object → Except Failure Object
  | none => .ok ⟨content, .file, now, now⟩
  | some o =>
    match o.kind with
    | .file => .ok ⟨content, .file, o.created, now⟩
    | .directory => .error (.backend (.writeDirectory uri.text))

theorem kind_of_writtenOver {now : Int} {uri : Uri} {content : ByteArray} {old : Option Object}
    {o : Object} (h : writtenOver now uri content old = .ok o) : o.kind = .file := by
  unfold writtenOver at h
  split at h
  · rw [← Except.ok.inj h]
  · split at h
    · rw [← Except.ok.inj h]
    · cases h

theorem content_of_writtenOver {now : Int} {uri : Uri} {content : ByteArray}
    {old : Option Object} {o : Object} (h : writtenOver now uri content old = .ok o) :
    o.content = content := by
  unfold writtenOver at h
  split at h
  · rw [← Except.ok.inj h]
  · split at h
    · rw [← Except.ok.inj h]
    · cases h

/-- A file goes over an object of its kind only. -/
theorem kind_eq_of_writtenOver {now : Int} {uri : Uri} {content : ByteArray} {old : Option Object}
    {o : Object} (h : writtenOver now uri content old = .ok o) {p : Object} (hp : old = some p) :
    p.kind = o.kind := by
  rw [kind_of_writtenOver h]
  rw [hp] at h
  cases hkind : p.kind with
  | file => rfl
  | directory => simp [writtenOver, hkind] at h

/-- Where a file is, or nothing, a file can be put. -/
theorem exists_writtenOver (now : Int) (uri : Uri) (content : ByteArray) {old : Option Object}
    (h : ∀ o, old = some o → o.kind = .file) :
    ∃ o, writtenOver now uri content old = .ok o ∧ o.kind = .file ∧ o.content = content ∧
      o.modified = now := by
  cases old with
  | none => exact ⟨_, rfl, rfl, rfl, rfl⟩
  | some o =>
    have hkind : o.kind = .file := h o rfl
    exact ⟨⟨content, .file, o.created, now⟩, by simp only [writtenOver, hkind], rfl, rfl, rfl⟩

/-- A write looks at its own key and puts a file there. -/
theorem write_eq (s : Store) (now : Int) (area : Area) (uri : Uri) (content : ByteArray) :
    s.write now area uri content =
      (writtenOver now uri content (s.find? area uri)).map (s.insert area uri) := by
  unfold write writtenOver
  cases s.find? area uri with
  | none => rfl
  | some o => cases hk : o.kind <;> simp [hk, Except.map]

theorem find?_insert_self {s : Store} {area : Area} {uri : Uri} {o : Object} :
    (s.insert area uri o).find? area uri = some o := by
  rw [find?_eq, getElem?_insert, if_pos rfl]

theorem find?_insert_other {s : Store} {area : Area} {uri other : Uri} {o : Object}
    (h : other ≠ uri) : (s.insert area uri o).find? area other = s.find? area other := by
  rw [find?_eq, getElem?_insert, if_neg fun hkey => h (congrArg Key.uri hkey), find?_eq]

/-- Of a file the content is read. -/
theorem read_of_file {s : Store} {area : Area} {uri : Uri} {o : Object}
    (ho : s.find? area uri = some o) (hkind : o.kind = .file) :
    s.read area uri = .ok o.content := by
  simp only [read, ho, hkind]

/-- A file that has been put is read. -/
theorem read_insert {s : Store} {area : Area} {uri : Uri} {o : Object} (hkind : o.kind = .file) :
    (s.insert area uri o).read area uri = .ok o.content :=
  read_of_file find?_insert_self hkind

/-- Whether a directory can be made where something was, and has to be. -/
def madeOver (uri : Uri) : Option Object → Except Failure Bool
  | none => .ok true
  | some o =>
    match o.kind with
    | .file => .error (.alreadyExists (.file uri.text))
    | .directory => .ok false

/-- Making a directory looks at its own key and puts a mark there if nothing is. -/
theorem makeDirectory_eq (s : Store) (now : Int) (area : Area) (uri : Uri) :
    s.makeDirectory now area uri =
      (madeOver uri (s.find? area uri)).map fun new =>
        (new, if new then s.insert area uri ⟨.empty, .directory, now, now⟩ else s) := by
  unfold makeDirectory madeOver
  cases s.find? area uri with
  | none => rfl
  | some o => cases hk : o.kind <;> simp [hk, Except.map]

/-! ## Removing -/

/-- Whether a key holds the mark of a directory. -/
def holdsDirectory (s : Store) (k : Key) : Bool :=
  s.objects[k]?.any (·.kind == .directory)

theorem holdsDirectory_eq_false_iff {s : Store} {area : Area} {uri : Uri} :
    s.holdsDirectory ⟨area, uri⟩ = false ↔
      ∀ o, s.find? area uri = some o → o.kind = .file := by
  rw [holdsDirectory, ← find?_eq]
  cases s.find? area uri with
  | none => simp
  | some o => cases hkind : o.kind <;> simp [hkind]

/-- A removal takes the branch of a directory, and of anything else the key. -/
theorem remove_eq (s : Store) (area : Area) (uri : Uri) :
    s.remove area uri = (s.contains area uri,
      if s.holdsDirectory ⟨area, uri⟩ then s.prune area uri
      else ⟨s.objects.erase ⟨area, uri⟩⟩) := by
  unfold remove contains holdsDirectory
  rw [find?_eq]
  cases ho : s.objects[(⟨area, uri⟩ : Key)]? with
  | none =>
    -- Nothing is under the key, so that to erase it is to leave the store alone.
    have hs : s.objects.erase ⟨area, uri⟩ = s.objects := by
      apply Std.ExtTreeMap.ext_getElem?
      intro k
      rw [getElem?_erase]
      split
      · next hk => rw [hk, ho]
      · rfl
    simp [hs]
  | some o => cases hk : o.kind <;> simp [hk]

theorem getElem?_remove (s : Store) (area : Area) (uri : Uri) (k : Key) :
    (s.remove area uri).2.objects[k]? =
      if k = ⟨area, uri⟩ ∨ (s.holdsDirectory ⟨area, uri⟩ = true ∧ k.isUnder area uri = true)
      then none else s.objects[k]? := by
  rw [remove_eq]
  by_cases hd : s.holdsDirectory ⟨area, uri⟩ = true
  · -- The branch of a directory starts with its mark.
    have hself : (⟨area, uri⟩ : Key).isUnder area uri = true := isUnder_self _
    by_cases hk : k = ⟨area, uri⟩
    · simp [hd, getElem?_prune, hk, hself]
    · simp [hd, getElem?_prune, hk]
  · simp [hd, getElem?_erase]

/-- What a removal leaves was there before. -/
theorem getElem?_of_remove {s : Store} {area : Area} {uri : Uri} {k : Key} {o : Object}
    (h : (s.remove area uri).2.objects[k]? = some o) : s.objects[k]? = some o := by
  rw [getElem?_remove] at h
  split at h
  · cases h
  · exact h

/-- The removal of a file takes nothing with it. -/
theorem getElem?_remove_of_file {s : Store} {area : Area} {uri : Uri} {o : Object}
    (ho : s.find? area uri = some o) (hkind : o.kind = .file) (k : Key) :
    (s.remove area uri).2.objects[k]? = if k = ⟨area, uri⟩ then none else s.objects[k]? := by
  have hmark : s.holdsDirectory ⟨area, uri⟩ = false := by
    rw [holdsDirectory_eq_false_iff, ho]
    rintro _ ⟨⟩
    exact hkind
  simp [getElem?_remove, hmark]

/-- A removal where nothing is leaves the store alone. -/
theorem remove_of_not_contains {s : Store} {area : Area} {u : Uri}
    (h : s.contains area u = false) : (s.remove area u).2 = s := by
  simp only [remove, contains_eq_false_iff.1 h]

/-- What is neither at the place nor below it is left by a removal. -/
theorem find?_remove_of_not_startsWith {s : Store} {area : Area} {u v : Uri}
    (h : v.startsWith u = false) :
    (s.remove area u).2.find? area v = s.find? area v := by
  have hne : (⟨area, v⟩ : Key) ≠ ⟨area, u⟩ := by
    rintro ⟨⟩
    rw [startsWith_self] at h
    cases h
  have hunder : (⟨area, v⟩ : Key).isUnder area u = false := by
    simp [Key.isUnder, h]
  rw [find?_eq, getElem?_remove, if_neg (by simp [hne, hunder]), find?_eq]

/-! ## Whole branches -/

variable {s t : Store} {area : Area} {base : Uri}

/-- Stores that hold the same in a branch hold the same objects there, as maps. -/
theorem filter_isUnder_congr (h : AgreesOn (fun k => k.isUnder area base = true) s t) :
    (s.objects.filter fun k _ => k.isUnder area base) =
      t.objects.filter fun k _ => k.isUnder area base := by
  apply Std.ExtTreeMap.ext_getElem?
  intro k
  simp only [Std.ExtTreeMap.getElem?_filter']
  by_cases hk : k.isUnder area base = true
  · rw [h k hk]
  · simp [hk]

/-- The keys of a branch depend on the objects of the branch. -/
theorem keysUnder_congr (h : AgreesOn (fun k => k.isUnder area base = true) s t) :
    s.keysUnder area base = t.keysUnder area base := by
  unfold keysUnder
  rw [← Std.ExtTreeMap.keys_filter_key, ← Std.ExtTreeMap.keys_filter_key,
    filter_isUnder_congr h]

/-- The keys of a branch are those of its objects. -/
theorem mem_keysUnder_iff {k : Key} :
    k ∈ s.keysUnder area base ↔
      s.contains k.area k.uri = true ∧ k.isUnder area base = true := by
  rw [keysUnder, List.mem_filter, Std.ExtTreeMap.mem_keys,
    Std.ExtTreeMap.mem_iff_isSome_getElem?]
  rfl

theorem mem_map_keysUnder_iff {u : Uri} :
    u ∈ (s.keysUnder area base).map Key.uri ↔
      s.contains area u = true ∧ u.startsWith base = true := by
  simp only [List.mem_map, mem_keysUnder_iff, isUnder_iff]
  constructor
  · rintro ⟨k, ⟨hthere, harea, hbelow⟩, rfl⟩
    exact ⟨harea ▸ hthere, hbelow⟩
  · rintro ⟨hthere, hbelow⟩
    exact ⟨⟨area, u⟩, ⟨hthere, rfl, hbelow⟩, rfl⟩

/-- In a branch, which is in one area, the order of the keys is that of their references. -/
theorem ordered_keysUnder (s : Store) (area : Area) (base : Uri) :
    ((s.keysUnder area base).map Key.uri).Pairwise fun u v => compare u v = .lt := by
  have hkeys : (s.keysUnder area base).Pairwise fun j k => Key.order j k = .lt :=
    Std.ExtTreeMap.ordered_keys.filter _
  rw [List.pairwise_map]
  refine hkeys.imp_of_mem fun {j k} hj hk hlt => ?_
  have harea : j.area = k.area :=
    (isUnder_iff.1 (mem_keysUnder_iff.1 hj).2).1.trans
      (isUnder_iff.1 (mem_keysUnder_iff.1 hk).2).1.symm
  simpa [Key.order, compareLex, compareOn, harea, Std.ReflCmp.compare_self] using hlt

/-- Once a branch has been cut there are no keys in it. -/
theorem keysUnder_prune (s : Store) (area : Area) (base : Uri) :
    (s.prune area base).keysUnder area base = [] := by
  apply List.eq_nil_iff_forall_not_mem.2
  intro k hk
  obtain ⟨hthere, hunder⟩ := mem_keysUnder_iff.1 hk
  rw [contains, find?_eq, getElem?_prune, if_pos hunder] at hthere
  cases hthere

/-- What stands below a reference can be read off the objects of the branch. -/
theorem below_eq_filter (s : Store) (area : Area) (base : Uri) :
    s.below area base =
      (s.objects.filter fun k _ => k.isUnder area base).toList.filterMap fun (k, o) =>
        match k.uri.relativeTo base with
        | some (name :: names) => some (k.uri, name :: names, o)
        | _ => none := by
  unfold below
  rw [Std.ExtTreeMap.toList_filter]
  exact (List.filterMap_filter ..).symm

theorem below_congr (h : AgreesOn (fun k => k.isUnder area base = true) s t) :
    s.below area base = t.below area base := by
  rw [below_eq_filter, below_eq_filter, filter_isUnder_congr h]

/-- A listing depends on the objects of its branch. -/
theorem list_congr (h : AgreesOn (fun k => k.isUnder area base = true) s t) :
    s.list area base = t.list area base := by
  unfold list
  rw [below_congr h]

end Depot.Store
