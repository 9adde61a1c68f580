import Depot.Proofs.Client.Footprint
import Depot.Proofs.Client.Invariant
import Depot.Proofs.Layout.Ways

/-!
# Addresses of cache entries

The way to an entry has two names that may be missing, those of the task and of the object, around
the word `cache`, which tasks and caches may be called as well. In one case, and no other, this
makes two entries of a flow share an address: an object in the cache `cache` of the flow, and the
cache of that name of the task `cache` (`CacheEntry.way_inj`). Entries at different addresses never
get in each other's way, but for the marks of directories: where one is at the address of an entry,
to remove the entry is to remove all below it (`Request.cache_frame`, `removeCache_takes_branch`).
-/

namespace Depot

/-- An entry as callers speak of it: the flow, the task if it is that of a task, and both
identifiers. -/
structure CacheEntry where
  flow : Ident .flow
  task : Option (Ident .task)
  cacheId : String
  objectId : Option String
  deriving DecidableEq

/-- The entry that a run means by two identifiers. -/
def Context.entry (c : Context) (cacheId : String) (objectId : Option String) : CacheEntry :=
  ⟨c.flow, c.task?, cacheId, objectId⟩

namespace CacheEntry

/-- The names that lead to an entry from its namespace. -/
def way (e : CacheEntry) : List String :=
  e.flow.text :: ((e.task.map Ident.text).toList ++
    "cache" :: e.cacheId :: (e.objectId.toList ++ ["cache.zip"]))

/-- One entry is an object in the cache `cache` of a flow, and the other is what the task `cache`
of the flow keeps under the name of that object. -/
def Mirrors (e f : CacheEntry) : Prop :=
  e.flow = f.flow ∧ e.task = none ∧ e.cacheId = "cache" ∧ e.objectId = some f.cacheId ∧
    f.task.map Ident.text = some "cache" ∧ f.objectId = none

instance (e f : CacheEntry) : Decidable (e.Mirrors f) :=
  inferInstanceAs (Decidable (_ ∧ _))

/-- The way tells the entry, but for the two entries of a mirror. -/
theorem way_inj {e f : CacheEntry} : e.way = f.way ↔ e = f ∨ e.Mirrors f ∨ f.Mirrors e := by
  obtain ⟨flow, task, cacheId, objectId⟩ := e
  obtain ⟨flow', task', cacheId', objectId'⟩ := f
  -- Ways of different lengths differ. Of those of one length either the same names are missing, and
  -- the others are compared one by one, or the task is missing in one and the object in the other.
  cases task <;> cases objectId <;> cases task' <;> cases objectId' <;>
    simp [way, Mirrors, Ident.text_inj]
  case none.some.some.none object task =>
    intro _
    constructor
    · rintro ⟨htask, hcache, hobject⟩
      exact ⟨hcache, hobject, htask.symm⟩
    · rintro ⟨hcache, hobject, htask⟩
      exact ⟨htask.symm, hcache, hobject⟩
  case some.none.none.some task object =>
    constructor
    · rintro ⟨hflow, htask, hcache, hobject⟩
      exact ⟨hflow.symm, hcache.symm, hobject.symm, htask⟩
    · rintro ⟨hflow, hcache, hobject, htask⟩
      exact ⟨hflow.symm, htask, hcache.symm, hobject.symm⟩

end CacheEntry

/-! ## References of entries -/

namespace Context

variable {c d : Context} {cacheId cacheId' : String} {objectId objectId' : Option String}
  {u v : Uri}

/-- An entry is where its way leads from the namespace. -/
theorem cacheUri_way (hu : c.cacheUri cacheId objectId = .ok u) :
    (∀ part ∈ c.space.segments ++ (c.entry cacheId objectId).way, IsPart part) ∧
      u = .ofNames (c.space.segments ++ (c.entry cacheId objectId).way) := by
  obtain ⟨cache, object, rfl, rfl, rfl⟩ := cacheUri_eq_ok_iff.1 hu
  have hway : c.cacheNames cache object =
      c.space.segments ++ (c.entry cache.text (object.map Name.text)).way := by
    rw [cacheNames_eq, flowNames, List.append_assoc]
    rfl
  rw [← hway]
  exact ⟨isPart_of_mem_cacheNames, rfl⟩

/-- In one namespace two entries share an address if they are the same or mirror each other. -/
theorem cacheUri_eq_iff (hspace : c.space = d.space)
    (hu : c.cacheUri cacheId objectId = .ok u) (hv : d.cacheUri cacheId' objectId' = .ok v) :
    u = v ↔ c.entry cacheId objectId = d.entry cacheId' objectId' ∨
      (c.entry cacheId objectId).Mirrors (d.entry cacheId' objectId') ∨
      (d.entry cacheId' objectId').Mirrors (c.entry cacheId objectId) := by
  obtain ⟨hparts, rfl⟩ := cacheUri_way hu
  obtain ⟨hparts', rfl⟩ := cacheUri_way hv
  -- References tell their ways, and both ways begin with the namespace.
  rw [Uri.ofNames_inj hparts hparts', hspace, List.append_cancel_left_eq]
  exact CacheEntry.way_inj

end Context

/-! ## Requests at other addresses -/

namespace Client

/-- The identifiers of the entry that a request on the cache is about. -/
def Request.onCache? : Request → Option (String × Option String)
  | .readCache cacheId objectId _ => some (cacheId, objectId)
  | .putCache _ cacheId objectId => some (cacheId, objectId)
  | .removeCache cacheId objectId => some (cacheId, objectId)
  | _ => none

variable {c : Client} {cacheId : String} {objectId : Option String} {u : Uri} {k : Store.Key}

/-- A request on the cache keeps what removals and files at the address of its entry keep. -/
theorem Request.keeps_of_cache {r : Request} {inv : Store → Prop}
    (hr : r.onCache? = some (cacheId, objectId)) (hu : c.context.cacheUri cacheId objectId = .ok u)
    (hremove : ∀ s, inv s → inv (s.remove c.area u).2)
    (hinsert : ∀ s o, o.kind = .file → inv s → inv (s.insert c.area u o)) :
    Action.Keeps inv (r.perform c) := by
  have hremove' : ∀ uri, c.context.cacheUri cacheId objectId = .ok uri →
      ∀ s, inv s → inv (s.remove c.area uri).2 := by
    intro uri huri
    rw [← Except.ok.inj (hu.symm.trans huri)]
    exact hremove
  have hwrite : ∀ uri, c.context.cacheUri cacheId objectId = .ok uri → ∀ s now content o, inv s →
      Store.writtenOver now uri content (s.find? c.area uri) = .ok o →
        inv (s.insert c.area uri o) := by
    intro uri huri s now content o hs ho
    rw [← Except.ok.inj (hu.symm.trans huri)]
    exact hinsert s o (Store.kind_of_writtenOver ho) hs
  cases r <;> simp only [onCache?, Option.some.injEq, Prod.mk.injEq, reduceCtorEq] at hr
  case readCache ttl =>
    obtain ⟨rfl, rfl⟩ := hr
    exact .map (keeps_readCache hremove') _
  case putCache path =>
    obtain ⟨rfl, rfl⟩ := hr
    exact .map (keeps_putCache hwrite) _
  case removeCache =>
    obtain ⟨rfl, rfl⟩ := hr
    exact .map (keeps_removeCache hremove') _

/-- A request on the cache leaves alone what is under another key, unless the mark of a directory
is at the address of its entry and the key is below it. -/
theorem Request.cache_frame {r : Request} (hr : r.onCache? = some (cacheId, objectId))
    (hu : c.context.cacheUri cacheId objectId = .ok u) (hk : k ≠ ⟨c.area, u⟩) (w : World)
    (hd : ¬(w.store.holdsDirectory ⟨c.area, u⟩ = true ∧ k.isUnder c.area u = true)) :
    (r.perform c w).2.store.objects[k]? = w.store.objects[k]? := by
  -- Once there is no mark none comes back: a removal leaves nothing, and a put leaves a file.
  let inv : Store → Prop := fun s => s.objects[k]? = w.store.objects[k]? ∧
    ¬(s.holdsDirectory ⟨c.area, u⟩ = true ∧ k.isUnder c.area u = true)
  have hremove : ∀ s, inv s → inv (s.remove c.area u).2 := by
    intro s ⟨ho, hs⟩
    constructor
    · rw [Store.getElem?_remove, if_neg (not_or.2 ⟨hk, hs⟩)]
      exact ho
    · rintro ⟨hmark, -⟩
      have hnone : (s.remove c.area u).2.objects[(⟨c.area, u⟩ : Store.Key)]? = none := by
        rw [Store.getElem?_remove, if_pos (Or.inl rfl)]
      simp [Store.holdsDirectory, hnone] at hmark
  have hinsert : ∀ s o, o.kind = .file → inv s → inv (s.insert c.area u o) := by
    intro s o hfile ⟨ho, _⟩
    constructor
    · rw [Store.getElem?_insert, if_neg hk]
      exact ho
    · rintro ⟨hmark, -⟩
      simp [Store.holdsDirectory, Store.getElem?_insert, hfile] at hmark
  exact (r.keeps_of_cache hr hu hremove hinsert w ⟨rfl, hd⟩).1

/-- Whatever is at the address of its entry, a request on the cache puts nothing new under another
key. -/
theorem Request.cache_keeps_or_removes {r : Request} (hr : r.onCache? = some (cacheId, objectId))
    (hu : c.context.cacheUri cacheId objectId = .ok u) (hk : k ≠ ⟨c.area, u⟩) (w : World) :
    (r.perform c w).2.store.objects[k]? = w.store.objects[k]? ∨
      (r.perform c w).2.store.objects[k]? = none := by
  let inv : Store → Prop := fun s =>
    s.objects[k]? = w.store.objects[k]? ∨ s.objects[k]? = none
  have hremove : ∀ s, inv s → inv (s.remove c.area u).2 := by
    intro s hs
    show _ ∨ _
    rw [Store.getElem?_remove]
    split
    · exact Or.inr rfl
    · exact hs
  have hinsert : ∀ s o, o.kind = .file → inv s → inv (s.insert c.area u o) := by
    intro s o _ hs
    show _ ∨ _
    rw [Store.getElem?_insert, if_neg hk]
    exact hs
  exact r.keeps_of_cache hr hu hremove hinsert w (Or.inl rfl)

/-- What is under another key does not show in the answer to a request on the cache. -/
theorem Request.cache_blind {r : Request} (hr : r.onCache? = some (cacheId, objectId))
    (hu : c.context.cacheUri cacheId objectId = .ok u) (hk : k ≠ ⟨c.area, u⟩) {v w : World}
    (h : v.AgreesOn (· ≠ k) w) : (r.perform c v).1 = (r.perform c w).1 := by
  have hreads : ∀ uri, c.context.cacheUri cacheId objectId = .ok uri →
      (⟨c.area, uri⟩ : Store.Key) ≠ k := by
    intro uri huri
    rw [← Except.ok.inj (hu.symm.trans huri)]
    exact hk.symm
  -- The request looks at its own key only, so that it does not look at the other one.
  have hfoot : Action.Footprint (· ≠ k) (fun _ => True) (r.perform c) := by
    cases r <;> simp only [onCache?, Option.some.injEq, Prod.mk.injEq, reduceCtorEq] at hr
    case readCache ttl =>
      obtain ⟨rfl, rfl⟩ := hr
      exact .map (footprint_readCache hreads fun _ _ _ _ => trivial) _
    case putCache path =>
      obtain ⟨rfl, rfl⟩ := hr
      exact .map (footprint_putCache hreads fun _ _ => trivial) _
    case removeCache =>
      obtain ⟨rfl, rfl⟩ := hr
      exact .map (footprint_removeCache hreads fun _ _ _ _ => trivial) _
  exact (hfoot.blind v w h).1

/-- With an entry goes all that is below it where the mark of a directory is at its address. -/
theorem removeCache_takes_branch {w : World} (hu : c.context.cacheUri cacheId objectId = .ok u)
    (hfaults : w.faults = .none) (hd : w.store.holdsDirectory ⟨c.area, u⟩ = true)
    (hk : k.isUnder c.area u = true) :
    (c.removeCache cacheId objectId w).2.store.objects[k]? = none := by
  -- The mark counts as an entry, so that the request goes on to remove it.
  have hthere : w.store.contains c.area u = true := by
    rw [Store.contains, Store.find?_eq]
    simp only [Store.holdsDirectory, Option.any_eq_true] at hd
    obtain ⟨o, ho, -⟩ := hd
    rw [ho]
    rfl
  have hcontains : Backend.contains c.area u w =
      (.ok true, { w with served := w.served + 1 }) := by
    simp only [Backend.contains, Backend.front, hfaults, Faults.none, Vault.contains, Vault.look,
      Vault.serve, Except.map, hthere]
  unfold removeCache
  rw [Action.guarded_bind_apply, hu]
  dsimp only
  rw [Action.bind_apply, hcontains]
  dsimp only
  rw [if_pos rfl, Action.bind_apply]
  simp only [Backend.remove, Backend.front, hfaults, Faults.none, Vault.remove, Vault.serve]
  show (w.store.remove c.area u).2.objects[k]? = none
  rw [Store.getElem?_remove, if_pos (Or.inr ⟨hd, hk⟩)]

/-- Two entries of a namespace share an address only if they are the same or mirror each other. At
different addresses, no request about the one shows the other or changes it, but that it removes it
where the mark of a directory is at its own address and the other one is below. -/
theorem cache_addresses (c d : Client) (harea : c.area = d.area) {cacheId cacheId' : String}
    {objectId objectId' : Option String} {u v : Uri}
    (hu : c.context.cacheUri cacheId objectId = .ok u)
    (hv : d.context.cacheUri cacheId' objectId' = .ok v) :
    let e := c.context.entry cacheId objectId
    let f := d.context.entry cacheId' objectId'
    let kept : Store.Key := ⟨c.area, u⟩
    (u = v ↔ e = f ∨ e.Mirrors f ∨ f.Mirrors e) ∧
    (e ≠ f → ¬e.Mirrors f → ¬f.Mirrors e →
      ∀ r : Request, r.onCache? = some (cacheId', objectId') →
        (∀ w : World, (r.perform d w).2.store.objects[kept]? = w.store.objects[kept]? ∨
          ((r.perform d w).2.store.objects[kept]? = none ∧
            w.store.holdsDirectory ⟨d.area, v⟩ = true ∧ u.startsWith v = true)) ∧
        ∀ w w' : World, w'.AgreesOn (· ≠ kept) w → (r.perform d w').1 = (r.perform d w).1) := by
  intro e f kept
  have hspace : c.context.space = d.context.space := congrArg Area.space harea
  have hiff : u = v ↔ e = f ∨ e.Mirrors f ∨ f.Mirrors e := Context.cacheUri_eq_iff hspace hu hv
  refine ⟨hiff, fun hne hef hfe r hr => ?_⟩
  have hkey : kept ≠ ⟨d.area, v⟩ := by
    intro h
    rcases hiff.1 (congrArg Store.Key.uri h) with h | h | h
    · exact hne h
    · exact hef h
    · exact hfe h
  constructor
  · intro w
    by_cases hd : w.store.holdsDirectory ⟨d.area, v⟩ = true ∧ kept.isUnder d.area v = true
    · have hbelow : u.startsWith v = true := (Store.isUnder_iff.1 hd.2).2
      rcases r.cache_keeps_or_removes hr hv hkey w with hkept | hgone
      · exact Or.inl hkept
      · exact Or.inr ⟨hgone, hd.1, hbelow⟩
    · exact Or.inl (r.cache_frame hr hv hkey w hd)
  · intro w w' h
    exact r.cache_blind hr hv hkey h

/-- The entries of a flow and of a task are apart under the same identifiers. -/
theorem cache_addresses_of_flow_and_task :
    let flow := Client.daily
    let task : Client := { flow with context := { flow.context with
      scope := .ofTask ⟨"extract", by decide⟩ } }
    ∃ u v, flow.context.cacheUri "deps" none = .ok u ∧ task.context.cacheUri "deps" none = .ok v ∧
      u ≠ v := by
  intro flow task
  let deps : Name := ⟨"deps", by decide⟩
  have hu : flow.context.cacheUri "deps" none =
      .ok (.ofNames (flow.context.cacheNames deps none)) :=
    Context.cacheUri_eq_ok_iff.2 ⟨deps, none, rfl, rfl, rfl⟩
  have hv : task.context.cacheUri "deps" none =
      .ok (.ofNames (task.context.cacheNames deps none)) :=
    Context.cacheUri_eq_ok_iff.2 ⟨deps, none, rfl, rfl, rfl⟩
  refine ⟨_, _, hu, hv, fun h => ?_⟩
  exact absurd ((cache_addresses flow task rfl hu hv).1.1 h) (by decide)

/-- An entry of a flow may have the address of one of a task, and where the mark of a directory is
at the address of an entry, the removal of the entry takes another one with it. -/
theorem cache_addresses_shared :
    (¬∀ (c d : Context) (cacheId cacheId' : String) (objectId objectId' : Option String) (u : Uri),
      c.area = d.area → c.cacheUri cacheId objectId = .ok u →
        d.cacheUri cacheId' objectId' = .ok u →
        c.entry cacheId objectId = d.entry cacheId' objectId') ∧
    ¬∀ (c : Client) (cacheId cacheId' : String) (objectId objectId' : Option String) (u v : Uri)
      (w : World), c.context.cacheUri cacheId objectId = .ok u →
        c.context.cacheUri cacheId' objectId' = .ok v →
        c.context.entry cacheId objectId ≠ c.context.entry cacheId' objectId' →
        (c.removeCache cacheId' objectId' w).2.store.objects[(⟨c.area, u⟩ : Store.Key)]? =
          w.store.objects[(⟨c.area, u⟩ : Store.Key)]? := by
  let flow := Context.daily
  constructor
  · intro h
    let cache : Name := ⟨"cache", by decide⟩
    let x : Name := ⟨"x", by decide⟩
    let task : Context := { flow with scope := .ofTask cache }
    have hways : flow.cacheNames cache (some x) = task.cacheNames x none := by decide
    have hflow : flow.cacheUri "cache" (some "x") =
        .ok (.ofNames (flow.cacheNames cache (some x))) :=
      Context.cacheUri_eq_ok_iff.2 ⟨cache, some x, rfl, rfl, rfl⟩
    have htask : task.cacheUri "x" none = .ok (.ofNames (flow.cacheNames cache (some x))) :=
      Context.cacheUri_eq_ok_iff.2 ⟨x, none, rfl, rfl, congrArg Uri.ofNames hways⟩
    exact absurd (h flow task _ _ _ _ _ rfl hflow htask) (by decide)
  · intro h
    let c := Client.daily
    let deps : Name := ⟨"deps", by decide⟩
    let zip : Name := ⟨"cache.zip", by decide⟩
    let u := Uri.ofNames (flow.cacheNames deps (some zip))
    let v := Uri.ofNames (flow.cacheNames deps none)
    have hu : flow.cacheUri "deps" (some "cache.zip") = .ok u :=
      Context.cacheUri_eq_ok_iff.2 ⟨deps, some zip, rfl, rfl, rfl⟩
    have hv : flow.cacheUri "deps" none = .ok v :=
      Context.cacheUri_eq_ok_iff.2 ⟨deps, none, rfl, rfl, rfl⟩
    have hne : v ≠ u := by
      intro e
      have hways := (Uri.ofNames_inj Context.isPart_of_mem_cacheNames
        Context.isPart_of_mem_cacheNames).1 e
      exact absurd hways (by decide)
    have hbelow : u.startsWith v = true :=
      (Uri.startsWith_ofNames Context.isPart_of_mem_cacheNames
        Context.isPart_of_mem_cacheNames).2 (by decide)
    -- An entry, and above it the mark of a directory at the address of another one.
    let marked := Store.empty.insert c.area v ⟨.empty, .directory, 0, 0⟩
    let w : World := { World.start .noon2024 with
      store := marked.insert c.area u ⟨.empty, .file, 0, 0⟩ }
    have hthere : w.store.objects[(⟨c.area, u⟩ : Store.Key)]? = some ⟨.empty, .file, 0, 0⟩ :=
      (Store.getElem?_insert ..).trans (if_pos rfl)
    have hmark : w.store.holdsDirectory ⟨c.area, v⟩ = true := by
      have hkey : (⟨c.area, v⟩ : Store.Key) ≠ ⟨c.area, u⟩ := fun e => hne (congrArg Store.Key.uri e)
      show (w.store.objects[(⟨c.area, v⟩ : Store.Key)]?.any (·.kind == .directory)) = true
      rw [Store.getElem?_insert, if_neg hkey, Store.getElem?_insert, if_pos rfl]
      rfl
    have hunder : (⟨c.area, u⟩ : Store.Key).isUnder c.area v = true :=
      Store.isUnder_iff.2 ⟨rfl, hbelow⟩
    have hfaults : w.faults = .none := rfl
    have hgone := removeCache_takes_branch (c := c) hv hfaults hmark hunder
    have hsame := h c _ _ _ _ u v w hu hv (by decide)
    rw [hgone, hthere] at hsame
    cases hsame

end Client

end Depot
