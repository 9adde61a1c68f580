import Depot.Proofs.Cache.Entry
import Depot.Proofs.Client.Request
import Depot.Proofs.Layout.Ways

/-!
# The cache as a register of entries

What a client can see of its cache is a `Register`: under each label, the bytes that were put last
and the millisecond that they were put in. A label is the identifiers that were given, once they are
let in (`Label.read_eq_ok_iff`). Reading with a time to live strikes out what has expired, whatever
way the clocks have moved since, and nothing but that and a removal does.

`Register.Describes` ties a register to a world: each entry is the object at the reference of its
label, and there are no other objects. One event keeps them tied and is answered alike
(`Register.happen_eq_step`), and so are all events one after the other
(`Register.run_happen_eq_run_step`).
-/

namespace Depot

namespace Cache

/-! ## Registers -/

/-- What an entry is known by: the identifier of a cache, and of an object in it. -/
structure Label where
  cache : Name
  object : Option Name
  deriving DecidableEq

/-- Reads a label. -/
def Label.read (cacheId : String) (objectId : Option String) : Except BadReference Label := do
  let cache ← Name.read "cache id" cacheId
  match objectId with
  | none => return ⟨cache, none⟩
  | some id => return ⟨cache, some (← Name.read "object id" id)⟩

/-- What is kept under a label. -/
structure Item where
  bytes : ByteArray
  time : Instant

/-- Whether an entry is older than it may be. -/
def Item.isExpired (item : Item) (now : Instant) (ttl : Option Nat) : Bool :=
  ttl.any fun (ttl : Nat) => item.time.nanos + ttl < now.nanos

/-- The entries of a cache, and the clocks: the one that entries are stamped by, and another. -/
structure Register where
  clock : Instant
  wall : Instant
  items : Label → Option Item

/-- A local file that can be read, and what is on the disk beside it. -/
structure Upload where
  disk : Disk
  path : LocalPath
  bytes : ByteArray
  readable : disk.read path = .ok bytes

/-- What happens to a cache. -/
inductive Event where
  | put (upload : Upload) (cacheId : String) (objectId : Option String)
  | read (cacheId : String) (objectId : Option String) (ttl : Option Nat)
  | remove (cacheId : String) (objectId : Option String)
  | setClock (time : Instant)
  | setWall (time : Instant)

namespace Register

/-- No entries yet. -/
def start (w : World) : Register :=
  ⟨w.clock, w.wall, fun _ => none⟩

/-- What the clock of a client shows. -/
def time (r : Register) (c : Client) : Instant :=
  match c.clock with
  | .shared => r.clock
  | .wall => r.wall

/-- The register with something else under a label. -/
def set (r : Register) (l : Label) (item : Option Item) : Register :=
  { r with items := fun m => if m = l then item else r.items m }

/-- Puts bytes under a label, in the place of what was there. -/
def put (r : Register) (l : Label) (bytes : ByteArray) : Register :=
  r.set l (some ⟨bytes, r.clock.floor⟩)

/-- Reads what is under a label, and strikes it out if it has expired. -/
def read (r : Register) (now : Instant) (l : Label) (ttl : Option Nat) :
    Option ByteArray × Register :=
  match r.items l with
  | none => (none, r)
  | some item => if item.isExpired now ttl then (none, r.set l none) else (some item.bytes, r)

/-- Strikes out what is under a label, if there is something. -/
def remove (r : Register) (l : Label) : Option Bool × Register :=
  match r.items l with
  | none => (none, r)
  | some _ => (some true, r.set l none)

/-- What is not a label is refused, and nothing comes of it. -/
def onLabel (r : Register) (given : Except BadReference Label)
    (act : Label → Answer × Register) : Option (Except Failure Answer) × Register :=
  match given with
  | .error e => (some (.error (.badReference e)), r)
  | .ok l =>
    let (answer, r) := act l
    (some (.ok answer), r)

end Register

end Cache

/-! ## Where entries are -/

open Cache (Label Item Register)

/-- Where the entry of a label is. -/
def Context.labelUri (c : Context) (l : Label) : Uri :=
  .ofNames (c.cacheNames l.cache l.object)

/-- What the entry of a label is kept under. -/
def Client.labelKey (c : Client) (l : Label) : Store.Key :=
  ⟨c.area, c.context.labelUri l⟩

/-- A file as an entry. -/
def Store.Object.item? (o : Object) : Option Item :=
  match o.kind with
  | .file => (Instant.ofMillis? o.modified).map fun time => ⟨o.content, time⟩
  | .directory => none

/-- What an event is answered with, if it asks something of the client, and the world after it. -/
def Cache.Event.happen (c : Client) (w : World) :
    Cache.Event → Option (Except Failure Answer) × World
  | .put upload cacheId objectId =>
    let (answer, w) := (Client.Request.putCache upload.path cacheId objectId).perform c
      { w with disk := upload.disk }
    (some answer, w)
  | .read cacheId objectId ttl =>
    let (answer, w) := (Client.Request.readCache cacheId objectId ttl).perform c w
    (some answer, w)
  | .remove cacheId objectId =>
    let (answer, w) := (Client.Request.removeCache cacheId objectId).perform c w
    (some answer, w)
  | .setClock time => (none, { w with clock := time })
  | .setWall time => (none, { w with wall := time })

namespace Cache

/-- What an event is answered with by a register, and the register after it. A put answers where the
entry is. -/
def Register.step (c : Client) (r : Register) : Event → Option (Except Failure Answer) × Register
  | .put upload cacheId objectId =>
    r.onLabel (Label.read cacheId objectId) fun l =>
      (.uri (c.context.labelUri l), r.put l upload.bytes)
  | .read cacheId objectId ttl =>
    r.onLabel (Label.read cacheId objectId) fun l =>
      let (content, r) := r.read (r.time c) l ttl
      (.entry content, r)
  | .remove cacheId objectId =>
    r.onLabel (Label.read cacheId objectId) fun l =>
      let (removed, r) := r.remove l
      (.removal removed, r)
  | .setClock time => (none, { r with clock := time })
  | .setWall time => (none, { r with wall := time })

/-- The answers to events one after the other, and what they lead to. -/
def run {σ : Type} (step : σ → Event → Option (Except Failure Answer) × σ) (s : σ) :
    List Event → List (Option (Except Failure Answer)) × σ
  | [] => ([], s)
  | event :: events =>
    let (answer, s) := step s event
    let (answers, s) := run step s events
    (answer :: answers, s)

/-- The world has the clocks of a register, nothing is wrong, and what is stored are the entries of
the register and nothing else. -/
structure Register.Describes (r : Register) (c : Client) (w : World) : Prop where
  clock : w.clock = r.clock
  wall : w.wall = r.wall
  faults : w.faults = .none
  items : ∀ l, (w.store.objects[c.labelKey l]?).map Store.Object.item? = (r.items l).map some
  only : ∀ k, w.store.objects[k]? ≠ none → ∃ l, k = c.labelKey l

/-! ## Labels -/

namespace Label

variable {cacheId : String} {objectId : Option String} {l : Label}

/-- A label is what was given to be read. -/
theorem read_eq_ok_iff :
    Label.read cacheId objectId = .ok l ↔
      l.cache.text = cacheId ∧ l.object.map Name.text = objectId := by
  constructor
  · intro h
    unfold Label.read at h
    cases hc : Name.read "cache id" cacheId with
    | error e => rw [hc] at h; cases h
    | ok cache =>
      rw [hc] at h
      have hcache := Name.read_eq_ok_iff.1 hc
      cases objectId with
      | none =>
        cases h
        exact ⟨hcache, rfl⟩
      | some id =>
        dsimp only [bind, Except.bind] at h
        cases ho : Name.read "object id" id with
        | error e => rw [ho] at h; cases h
        | ok object =>
          rw [ho] at h
          cases h
          exact ⟨hcache, congrArg some (Name.read_eq_ok_iff.1 ho)⟩
  · rintro ⟨rfl, rfl⟩
    have hc : Name.read "cache id" l.cache.text = .ok l.cache := Name.read_eq_ok_iff.2 rfl
    unfold Label.read
    rw [hc]
    obtain ⟨cache, object⟩ := l
    cases object with
    | none => rfl
    | some object =>
      have ho : Name.read "object id" object.text = .ok object := Name.read_eq_ok_iff.2 rfl
      simp only [bind, Except.bind, Option.map_some, ho]
      rfl

end Label

end Cache

variable {c : Client} {cacheId : String} {objectId : Option String}

theorem Context.cacheUri_eq_map (c : Context) (cacheId : String) (objectId : Option String) :
    c.cacheUri cacheId objectId = (Label.read cacheId objectId).map c.labelUri := by
  unfold cacheUri Label.read
  cases Name.read "cache id" cacheId with
  | error e => rfl
  | ok cache =>
    cases objectId with
    | none => rfl
    | some id =>
      dsimp only [bind, Except.bind]
      cases Name.read "object id" id <;> rfl

theorem Context.labelUri_inj {c : Context} {l m : Label} :
    c.labelUri l = c.labelUri m ↔ l = m := by
  refine ⟨fun h => ?_, fun h => h ▸ rfl⟩
  have hnames := (Uri.ofNames_inj isPart_of_mem_cacheNames isPart_of_mem_cacheNames).1 h
  rw [cacheNames_eq, cacheNames_eq, List.append_cancel_left_eq, List.append_cancel_left_eq] at hnames
  obtain ⟨cache, object⟩ := l
  obtain ⟨cache', object'⟩ := m
  -- With an object the way is longer by a name.
  cases object <;> cases object' <;> simp_all [Name.text_inj]

theorem Store.Object.item?_eq_some_iff {o : Object} {item : Item} :
    o.item? = some item ↔
      o.kind = .file ∧ Instant.ofMillis? o.modified = some item.time ∧ o.content = item.bytes := by
  obtain ⟨bytes, time⟩ := item
  unfold item?
  cases o.kind <;> simp [and_comm]

namespace Cache.Register

variable {r : Register} {w v : World} {l : Label} {item : Item} {ttl : Option Nat}

/-! ## A register and a world -/

/-- What does not touch the store leaves a world that is described as it was. -/
theorem Describes.of_store_eq (h : r.Describes c w) (hclock : v.clock = w.clock)
    (hwall : v.wall = w.wall) (hfaults : v.faults = w.faults) (hstore : v.store = w.store) :
    r.Describes c v where
  clock := hclock.trans h.clock
  wall := hwall.trans h.wall
  faults := hfaults.trans h.faults
  items := by
    rw [hstore]
    exact h.items
  only := by
    rw [hstore]
    exact h.only

/-- What changes one key of the store changes what is under its label. -/
theorem Describes.set (h : r.Describes c w) {stored : Option Store.Object} {new : Option Item}
    (hstored : stored.map Store.Object.item? = new.map some) (hclock : v.clock = w.clock)
    (hwall : v.wall = w.wall) (hfaults : v.faults = w.faults)
    (hstore : ∀ k, v.store.objects[k]? =
      if k = c.labelKey l then stored else w.store.objects[k]?) :
    (r.set l new).Describes c v where
  clock := hclock.trans h.clock
  wall := hwall.trans h.wall
  faults := hfaults.trans h.faults
  items m := by
    rw [hstore]
    by_cases hm : m = l
    · rw [hm, if_pos rfl]
      simpa only [Register.set, if_pos] using hstored
    · -- Another label has another reference, so that what it stands for is where it was.
      have hne : c.labelKey m ≠ c.labelKey l := by
        intro e
        exact hm (Context.labelUri_inj.1 (congrArg Store.Key.uri e))
      rw [if_neg hne]
      simpa only [Register.set, if_neg hm] using h.items m
  only k hk := by
    by_cases hkl : k = c.labelKey l
    · exact ⟨l, hkl⟩
    · rw [hstore, if_neg hkl] at hk
      exact h.only k hk

theorem describes_start (c : Client) (w : World) :
    (start w).Describes c { w with store := .empty, faults := .none } where
  clock := rfl
  wall := rfl
  faults := rfl
  items _ := rfl
  only _ hk := absurd rfl hk

theorem Describes.find?_of_none (h : r.Describes c w) (hl : r.items l = none) :
    w.store.find? c.area (c.context.labelUri l) = none := by
  have hitem := h.items l
  rw [hl] at hitem
  exact Option.map_eq_none_iff.1 hitem

theorem Describes.find?_of_some (h : r.Describes c w) (hl : r.items l = some item) :
    ∃ o, w.store.find? c.area (c.context.labelUri l) = some o ∧ o.item? = some item := by
  have hitem := h.items l
  rw [hl] at hitem
  exact Option.map_eq_some_iff.1 hitem

/-- Entries are files. -/
theorem Describes.kind_of_find? (h : r.Describes c w) {o : Store.Object}
    (ho : w.store.find? c.area (c.context.labelUri l) = some o) : o.kind = .file := by
  cases hl : r.items l with
  | none =>
    rw [h.find?_of_none hl] at ho
    cases ho
  | some item =>
    obtain ⟨o', ho', hitem⟩ := h.find?_of_some hl
    rw [← Option.some.inj (ho'.symm.trans ho)]
    exact (Store.Object.item?_eq_some_iff.1 hitem).1

/-- A file under the key of a label is a new entry. -/
theorem Describes.insert (h : r.Describes c w) {o : Store.Object} (hitem : o.item? = some item)
    (served : Nat) (disk : Disk) :
    (r.set l (some item)).Describes c
      { w with served, disk, store := w.store.insert c.area (c.context.labelUri l) o } := by
  have hstored : (some o).map Store.Object.item? = (some item).map some := congrArg some hitem
  exact h.set hstored rfl rfl rfl (Store.getElem?_insert w.store c.area (c.context.labelUri l) o)

/-- An entry is a file, so that its removal takes no other one with it. -/
theorem Describes.remove (h : r.Describes c w) (hl : r.items l = some item) (served : Nat) :
    (r.set l none).Describes c
      { w with served, store := (w.store.remove c.area (c.context.labelUri l)).2 } := by
  obtain ⟨o, ho, hitem⟩ := h.find?_of_some hl
  exact h.set rfl rfl rfl rfl (Store.getElem?_remove_of_file ho (h.kind_of_find? ho))

theorem Describes.time_eq (h : r.Describes c w) : c.time w = r.time c := by
  unfold Client.time Register.time
  cases c.clock with
  | shared => exact h.clock
  | wall => exact h.wall

/-- A stored entry is stale when it has expired in the register. -/
theorem Describes.isStale_eq (h : r.Describes c w) (hl : r.items l = some item) :
    c.isStale w (c.context.labelUri l) ttl = item.isExpired (r.time c) ttl := by
  obtain ⟨o, ho, hitem⟩ := h.find?_of_some hl
  obtain ⟨-, htime, -⟩ := Store.Object.item?_eq_some_iff.1 hitem
  cases ttl with
  | none => rfl
  | some ttl =>
    simp only [Client.isStale, Item.isExpired, Option.any_some, ho, htime, h.time_eq]
    rw [Bool.eq_iff_iff, Client.isExpired_iff, decide_eq_true_iff]

theorem Describes.isStale_of_none (h : r.Describes c w) (hl : r.items l = none) :
    c.isStale w (c.context.labelUri l) ttl = false := by
  cases ttl with
  | none => rfl
  | some ttl =>
    simp only [Client.isStale, Option.any_some, h.find?_of_none hl, Option.any_none]

/-! ## One request -/

theorem cacheUri_of_read (c : Client) (hl : Label.read cacheId objectId = .ok l) :
    c.context.cacheUri cacheId objectId = .ok (c.context.labelUri l) := by
  rw [Context.cacheUri_eq_map, hl]
  rfl

/-- A put is answered with the place of the entry, and the entry is what was put. -/
theorem Describes.putCache (h : r.Describes c w) (upload : Upload)
    (hl : Label.read cacheId objectId = .ok l) :
    ∃ v, c.putCache upload.path cacheId objectId { w with disk := upload.disk } =
        (.ok (c.context.labelUri l), v) ∧
      (r.put l upload.bytes).Describes c v := by
  -- What is there is a file or nothing, and either can be written over.
  obtain ⟨o, hwritten, hkind, hcontent, hmodified⟩ := Store.exists_writtenOver w.clock.millis
    (c.context.labelUri l) upload.bytes fun o ho => h.kind_of_find? ho
  obtain ⟨served, disk, hput⟩ := Client.putCache_apply (w := { w with disk := upload.disk })
    h.faults (cacheUri_of_read c hl) upload.readable
  dsimp only at hput
  rw [hwritten] at hput
  have hitem : o.item? = some ⟨upload.bytes, r.clock.floor⟩ := by
    refine Store.Object.item?_eq_some_iff.2 ⟨hkind, ?_, hcontent⟩
    rw [hmodified, Instant.ofMillis?_millis, h.clock]
  exact ⟨_, hput, h.insert hitem served disk⟩

theorem Describes.readCache (h : r.Describes c w) (ttl : Option Nat)
    (hl : Label.read cacheId objectId = .ok l) :
    ∃ v, c.readCache cacheId objectId ttl w = (.ok (r.read (r.time c) l ttl).1, v) ∧
      (r.read (r.time c) l ttl).2.Describes c v := by
  obtain ⟨served, hread⟩ := Client.readCache_apply ttl h.faults (cacheUri_of_read c hl)
  unfold Register.read
  cases hitems : r.items l with
  | none =>
    rw [h.isStale_of_none hitems, Store.read, h.find?_of_none hitems] at hread
    exact ⟨_, hread, h.of_store_eq rfl rfl rfl rfl⟩
  | some item =>
    rw [h.isStale_eq hitems] at hread
    dsimp only
    cases hexpired : item.isExpired (r.time c) ttl with
    | true =>
      rw [hexpired] at hread
      exact ⟨_, hread, h.remove hitems served⟩
    | false =>
      obtain ⟨o, ho, hitem⟩ := h.find?_of_some hitems
      obtain ⟨hkind, -, hcontent⟩ := Store.Object.item?_eq_some_iff.1 hitem
      rw [hexpired, Store.read, ho] at hread
      simp only [hkind, hcontent] at hread
      exact ⟨_, hread, h.of_store_eq rfl rfl rfl rfl⟩

theorem Describes.removeCache (h : r.Describes c w) (hl : Label.read cacheId objectId = .ok l) :
    ∃ v, c.removeCache cacheId objectId w = (.ok (r.remove l).1, v) ∧
      (r.remove l).2.Describes c v := by
  obtain ⟨served, hremove⟩ := Client.removeCache_apply h.faults (cacheUri_of_read c hl)
  unfold Register.remove
  cases hitems : r.items l with
  | none =>
    rw [Store.contains, h.find?_of_none hitems] at hremove
    exact ⟨_, hremove, h.of_store_eq rfl rfl rfl rfl⟩
  | some item =>
    obtain ⟨o, ho, -⟩ := h.find?_of_some hitems
    rw [Store.contains, ho] at hremove
    exact ⟨_, hremove, h.remove hitems served⟩

/-! ## One event -/

/-- Identifiers that are no label are refused before anything is done. -/
theorem guarded_cacheUri_bind {α : Type} (c : Client) {e : BadReference}
    (hl : Label.read cacheId objectId = .error e) (f : Uri → Action α) :
    (Action.guarded (c.context.cacheUri cacheId objectId) >>= f) =
      fun w => (.error (.badReference e), w) := by
  funext w
  rw [Action.guarded_bind_apply, Context.cacheUri_eq_map, hl]
  rfl

/-- A world and its register answer an event alike, and stay tied. -/
theorem happen_eq_step (h : r.Describes c w) (event : Event) :
    (event.happen c w).1 = (r.step c event).1 ∧
      (r.step c event).2.Describes c (event.happen c w).2 := by
  cases event with
  | put upload cacheId objectId =>
    simp only [Event.happen, Register.step, Client.Request.perform, Action.map_apply]
    cases hl : Label.read cacheId objectId with
    | error e =>
      -- The local file is taken away all the same, but that is no matter of the store.
      have hrefused : c.putCache upload.path cacheId objectId { w with disk := upload.disk } =
          (.error (.badReference e),
            { w with disk := upload.disk.unlink upload.path }) := by
        rw [Client.putCache, guarded_cacheUri_bind c hl]
        rfl
      rw [hrefused]
      exact ⟨rfl, h.of_store_eq rfl rfl rfl rfl⟩
    | ok l =>
      obtain ⟨v, hput, hv⟩ := h.putCache upload hl
      rw [hput]
      exact ⟨rfl, hv⟩
  | read cacheId objectId ttl =>
    simp only [Event.happen, Register.step, Client.Request.perform, Action.map_apply]
    cases hl : Label.read cacheId objectId with
    | error e =>
      rw [Client.readCache, guarded_cacheUri_bind c hl]
      exact ⟨rfl, h⟩
    | ok l =>
      obtain ⟨v, hread, hv⟩ := h.readCache ttl hl
      rw [hread]
      exact ⟨rfl, hv⟩
  | remove cacheId objectId =>
    simp only [Event.happen, Register.step, Client.Request.perform, Action.map_apply]
    cases hl : Label.read cacheId objectId with
    | error e =>
      rw [Client.removeCache, guarded_cacheUri_bind c hl]
      exact ⟨rfl, h⟩
    | ok l =>
      obtain ⟨v, hremove, hv⟩ := h.removeCache hl
      rw [hremove]
      exact ⟨rfl, hv⟩
  | setClock time =>
    exact ⟨rfl, rfl, h.wall, h.faults, h.items, h.only⟩
  | setWall time =>
    exact ⟨rfl, h.clock, rfl, h.faults, h.items, h.only⟩

/-! ## All events -/

theorem run_happen_eq (h : r.Describes c w) (events : List Event) :
    (run (Event.happen c) w events).1 = (run (Register.step c) r events).1 ∧
      (run (Register.step c) r events).2.Describes c (run (Event.happen c) w events).2 := by
  induction events generalizing r w with
  | nil => exact ⟨rfl, h⟩
  | cons event events ih =>
    obtain ⟨hanswer, hnext⟩ := happen_eq_step h event
    obtain ⟨hanswers, hlast⟩ := ih hnext
    simp only [run, hanswer, hanswers, true_and]
    exact hlast

/-- From an empty store on, where nothing is wrong with the backend, a cache answers as its register
does, and what is stored is what the register holds: whatever is put, read and removed, by whatever
identifiers, and however the clocks are moved meanwhile. -/
theorem run_happen_eq_run_step (c : Client) (w : World) (events : List Event) :
    let cached := run (Event.happen c) { w with store := .empty, faults := .none } events
    let registered := run (Register.step c) (start w) events
    cached.1 = registered.1 ∧ registered.2.Describes c cached.2 :=
  run_happen_eq (describes_start c w) events

end Cache.Register

end Depot
