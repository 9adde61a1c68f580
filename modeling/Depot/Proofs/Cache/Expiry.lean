import Depot.Proofs.Cache.Entry
import Depot.Proofs.Client.Request
import Depot.Proofs.Layout.Ways

/-!
# The end of an entry

Three kinds of numbers meet when a client asks whether an entry counts any more: the milliseconds
that the store keeps, the time that the client gives the entry, and the instant that its clock
shows. Each has its bounds, and where one of them is exceeded there is no end to compare the clock
with. None of it shows. The answer is the one that numbers without bounds give
(`Client.expiry_exact`), because no clock can show more than an end that is out of bounds.

What does show is that the store keeps whole milliseconds and clocks do not. The time of an entry
runs from the start of the millisecond that it was put in (`Client.hits_until`), so that an entry
can be gone when less than a millisecond of its time is left (`Client.evicted_when_put`).
-/

namespace Depot

theorem Instant.lt_floor_add (t : Instant) : t.nanos < t.floor.nanos + nanosPerMilli := by
  have hpos : 0 < nanosPerMilli := by decide
  have hnext : t.nanos < (t.millis + 1) * nanosPerMilli := Int.lt_ediv_add_one_mul_self t.nanos hpos
  rwa [Int.add_mul, Int.one_mul] at hnext

namespace Client

variable {c : Client} {cacheId : String} {objectId : Option String} {u : Uri} {w : World}
  {o : Store.Object} {stamp : Instant} {ttl : Nat} {content : ByteArray} {path : LocalPath}

/-- An object that carries the millisecond of an instant is stale once the clock shows more than
that and the time it is given. -/
theorem isStale_iff (ho : w.store.find? c.area u = some o) (hstamp : o.modified = stamp.millis)
    (ttl : Nat) :
    c.isStale w u (some ttl) = true ↔
      o.modified * Instant.nanosPerMilli + ttl < (c.time w).nanos := by
  simp only [isStale, Option.any_some, ho, hstamp, Instant.ofMillis?_millis]
  rw [isExpired_iff]
  rfl

theorem isCacheExpired_of_find? (hserved : w.faults.failing .attributes = none)
    (ho : w.store.find? c.area u = some o) (hstamp : o.modified = stamp.millis) (ttl : Nat) :
    c.isCacheExpired u ttl w =
      (.ok (decide (o.modified * Instant.nanosPerMilli + ttl < (c.time w).nanos)),
        w.serving w.store) := by
  have hstale : c.isStale w u (some ttl) =
      decide (o.modified * Instant.nanosPerMilli + ttl < (c.time w).nanos) := by
    rw [Bool.eq_iff_iff, isStale_iff ho hstamp ttl, decide_eq_true_iff]
  rw [isCacheExpired_apply hserved, hstale]

/-- What has expired is removed, and anything else is read as if it had all the time there is. -/
theorem readCache_of_isCacheExpired {ttl : Nat} {expired : Bool} {v : World}
    (hu : c.context.cacheUri cacheId objectId = .ok u)
    (hexpired : c.isCacheExpired u ttl w = (.ok expired, v)) :
    c.readCache cacheId objectId (some ttl) w =
      if expired = true then (.ok none, (Backend.remove c.area u v).2)
      else c.readCache cacheId objectId none v := by
  have hsome : c.readCache cacheId objectId (some ttl) w = c.fetch u expired v :=
    readCache_of_askStale hu hexpired
  have hnone : c.readCache cacheId objectId none v = c.fetch u false v :=
    readCache_of_askStale hu rfl
  rw [hsome, hnone]
  cases expired <;> rfl

/-- An entry has expired if and only if the clock shows more than the millisecond of the entry and
the time that it is given, whatever these are; and nothing but that decides whether a reader gets
what is there. So an entry that has not expired has not with more time either, and one that has
expired has for every later clock. -/
theorem expiry_exact (hserved : w.faults.failing .attributes = none)
    (hu : c.context.cacheUri cacheId objectId = .ok u)
    (ho : w.store.find? c.area u = some o) (hstamp : o.modified = stamp.millis) (ttl : Nat) :
    (c.isCacheExpired u ttl w).1 =
      .ok (decide (o.modified * Instant.nanosPerMilli + ttl < (c.time w).nanos)) ∧
    (c.readCache cacheId objectId (some ttl) w =
      if o.modified * Instant.nanosPerMilli + ttl < (c.time w).nanos then
        (.ok none, (Backend.remove c.area u (w.serving w.store)).2)
      else c.readCache cacheId objectId none (w.serving w.store)) ∧
    (∀ more, ttl ≤ more → (c.isCacheExpired u ttl w).1 = .ok false →
      (c.isCacheExpired u more w).1 = .ok false) ∧
    ∀ v : World, v.faults.failing .attributes = none → v.store.find? c.area u = some o →
      (c.time w).nanos ≤ (c.time v).nanos → (c.isCacheExpired u ttl w).1 = .ok true →
        (c.isCacheExpired u ttl v).1 = .ok true := by
  have hanswer := isCacheExpired_of_find? hserved ho hstamp
  refine ⟨congrArg Prod.fst (hanswer ttl), ?_, ?_, ?_⟩
  · rw [readCache_of_isCacheExpired hu (hanswer ttl)]
    simp only [decide_eq_true_iff]
  · intro more hmore hcounts
    rw [hanswer, Except.ok.injEq, decide_eq_false_iff_not] at hcounts ⊢
    omega
  · intro v hv hov hlater hexpired
    rw [isCacheExpired_of_find? hv hov hstamp, Except.ok.injEq, decide_eq_true_iff]
    rw [hanswer, Except.ok.injEq, decide_eq_true_iff] at hexpired
    omega

/-- The longest time that can be given has no end, from the very first instant to the very last one.
Without any time an entry has expired a nanosecond after its millisecond has started. -/
theorem expiry_exact_at_bounds :
    let c := Client.daily
    let deps : Name := ⟨"deps", by decide⟩
    let u := Uri.ofNames (c.context.cacheNames deps none)
    let first : Instant := ⟨Instant.minNanos, by decide⟩
    let second : Instant := ⟨Instant.minNanos + 1, by decide⟩
    let last : Instant := ⟨Instant.maxNanos, by decide⟩
    let o : Store.Object := ⟨.empty, .file, first.millis, first.millis⟩
    let w := fun clock => { World.start clock with store := Store.empty.insert c.area u o }
    (c.isCacheExpired u (0xFFFFFFFFFFFFFFFF * 1000000000 + 999999999) (w last)).1 = .ok false ∧
      (c.isCacheExpired u 0 (w first)).1 = .ok false ∧
      (c.isCacheExpired u 0 (w second)).1 = .ok true := by
  intro c deps u first second last o w
  have hu : c.context.cacheUri "deps" none = .ok u :=
    Context.cacheUri_eq_ok_iff.2 ⟨deps, none, rfl, rfl, rfl⟩
  have ho : ∀ clock, (w clock).store.find? c.area u = some o := by
    intro clock
    rw [Store.find?_eq, Store.getElem?_insert, if_pos rfl]
  have hstamp : o.modified = first.millis := rfl
  have hend : ∀ clock ttl, (c.isCacheExpired u ttl (w clock)).1 =
      .ok (decide (o.modified * Instant.nanosPerMilli + ttl < clock.nanos)) :=
    fun clock ttl => (expiry_exact rfl hu (ho clock) hstamp ttl).1
  refine ⟨?_, ?_, ?_⟩
  · rw [hend, decide_eq_false (by decide)]
  · rw [hend, decide_eq_false (by decide)]
  · rw [hend, decide_eq_true (by decide)]

/-! ## What has been put -/

/-- A request for an entry is answered with its content, and leaves all that is stored. -/
def Hits (c : Client) (cacheId : String) (objectId : Option String) (ttl : Nat)
    (content : ByteArray) (w : World) : Prop :=
  (c.readCache cacheId objectId (some ttl) w).1 = .ok (some content) ∧
    (c.readCache cacheId objectId (some ttl) w).2.store = w.store

/-- A request for an entry is answered with nothing, and takes what is at a reference away. -/
def Evicts (c : Client) (cacheId : String) (objectId : Option String) (ttl : Nat) (u : Uri)
    (w : World) : Prop :=
  (c.readCache cacheId objectId (some ttl) w).1 = .ok none ∧
    (c.readCache cacheId objectId (some ttl) w).2.store.find? c.area u = none

theorem hits_of_le (hw : w.faults = .none) (hu : c.context.cacheUri cacheId objectId = .ok u)
    (ho : w.store.find? c.area u = some o) (hkind : o.kind = .file)
    (hstamp : o.modified = stamp.millis) (hnow : (c.time w).nanos ≤ stamp.floor.nanos + ttl) :
    c.Hits cacheId objectId ttl o.content w := by
  have hfresh : c.isStale w u (some ttl) = false := by
    rw [Bool.eq_false_iff]
    intro hstale
    have hlater := (isStale_iff ho hstamp ttl).1 hstale
    rw [hstamp] at hlater
    exact absurd hnow (Int.not_le.2 hlater)
  have hcontent : w.store.read c.area u = .ok o.content := Store.read_of_file ho hkind
  obtain ⟨served, hread⟩ := readCache_apply (some ttl) hw hu
  rw [hfresh, if_neg Bool.false_ne_true, hcontent] at hread
  rw [Hits, hread]
  exact ⟨rfl, rfl⟩

theorem evicts_of_lt (hw : w.faults = .none) (hu : c.context.cacheUri cacheId objectId = .ok u)
    (ho : w.store.find? c.area u = some o) (hstamp : o.modified = stamp.millis)
    (hnow : stamp.floor.nanos + ttl < (c.time w).nanos) :
    c.Evicts cacheId objectId ttl u w := by
  have hstale : c.isStale w u (some ttl) = true := by
    refine (isStale_iff ho hstamp ttl).2 ?_
    rw [hstamp]
    exact hnow
  obtain ⟨served, hread⟩ := readCache_apply (some ttl) hw hu
  rw [hstale, if_pos rfl] at hread
  rw [Evicts, hread]
  refine ⟨rfl, ?_⟩
  show (w.store.remove c.area u).2.find? c.area u = none
  rw [Store.find?_eq, Store.getElem?_remove, if_pos (.inl rfl)]

/-- A local file takes the place of a file or of nothing, and carries the millisecond of the
clock. -/
theorem exists_putCache_eq_ok (hw : w.faults = .none)
    (hu : c.context.cacheUri cacheId objectId = .ok u) (hread : w.disk.read path = .ok content)
    (hplace : ∀ o, w.store.find? c.area u = some o → o.kind = .file) :
    ∃ served disk o, c.putCache path cacheId objectId w =
        (.ok u, { w with served, disk, store := w.store.insert c.area u o }) ∧
      o.kind = .file ∧ o.content = content ∧ o.modified = w.clock.millis := by
  obtain ⟨o, hover, hobject⟩ := Store.exists_writtenOver w.clock.millis u content hplace
  obtain ⟨served, disk, hput⟩ := putCache_apply hw hu hread
  rw [hover] at hput
  exact ⟨served, disk, o, hput, hobject⟩

/-- What has been put was put over a file or over nothing. -/
theorem kind_of_putCache {put : World} (hw : w.faults = .none)
    (hu : c.context.cacheUri cacheId objectId = .ok u) (hread : w.disk.read path = .ok content)
    (hput : c.putCache path cacheId objectId w = (.ok u, put))
    (ho : w.store.find? c.area u = some o) : o.kind = .file := by
  obtain ⟨served, disk, happly⟩ := putCache_apply hw hu hread
  cases hover : Store.writtenOver w.clock.millis u content (w.store.find? c.area u) with
  | error e =>
    rw [hput, hover] at happly
    cases happly
  | ok new =>
    have hnew : new.kind = .file := Store.kind_of_writtenOver hover
    exact (Store.kind_eq_of_writtenOver hover ho).trans hnew

/-- A local file is put unless a directory is in the way. What has been put is answered and stays
until the clock shows more than the start of the millisecond that it was put in and the time that it
is given, and then it is taken away. So it counts for all of its time if it was put at the start of
a millisecond, and for all but the last millisecond of it in any case. -/
theorem hits_until (hw : w.faults = .none) (hu : c.context.cacheUri cacheId objectId = .ok u)
    (hread : w.disk.read path = .ok content) :
    ((∃ put, c.putCache path cacheId objectId w = (.ok u, put)) ↔
      ∀ o, w.store.find? c.area u = some o → o.kind = .file) ∧
    ∀ put, c.putCache path cacheId objectId w = (.ok u, put) →
      ∀ v : World, v.faults = .none → v.store.find? c.area u = put.store.find? c.area u →
        ∀ ttl : Nat,
          ((c.time v).nanos - w.clock.floor.nanos ≤ ttl →
            c.Hits cacheId objectId ttl content v) ∧
          (ttl < (c.time v).nanos - w.clock.floor.nanos →
            c.Evicts cacheId objectId ttl u v) ∧
          (w.clock = w.clock.floor → (c.time v).nanos - w.clock.nanos ≤ ttl →
            c.Hits cacheId objectId ttl content v) ∧
          ((c.time v).nanos - w.clock.nanos ≤ ttl - Instant.nanosPerMilli →
            c.Hits cacheId objectId ttl content v) := by
  refine ⟨⟨fun ⟨put, hput⟩ o ho => kind_of_putCache hw hu hread hput ho, fun hplace => ?_⟩, ?_⟩
  · obtain ⟨served, disk, o, hput, -⟩ := exists_putCache_eq_ok hw hu hread hplace
    exact ⟨_, hput⟩
  · intro put hput v hv hsame ttl
    obtain ⟨served, disk, o, hput', hkind, hcontent, hstamp⟩ := exists_putCache_eq_ok hw hu hread
      fun o ho => kind_of_putCache hw hu hread hput ho
    have ho : v.store.find? c.area u = some o := by
      rw [hput] at hput'
      cases hput'
      rw [hsame, Store.find?_eq, Store.getElem?_insert, if_pos rfl]
    have hhits : (c.time v).nanos - w.clock.floor.nanos ≤ ttl →
        c.Hits cacheId objectId ttl content v := by
      intro hnow
      rw [← hcontent]
      exact hits_of_le hv hu ho hkind hstamp (by omega)
    refine ⟨hhits, ?_, ?_, ?_⟩
    · intro hnow
      exact evicts_of_lt hv hu ho hstamp (by omega)
    · intro hstart hnow
      rw [hstart] at hnow
      exact hhits hnow
    · intro hnow
      have hfloor := w.clock.lt_floor_add
      exact hhits (by omega)

/-- An entry that is put half a millisecond late counts for half a millisecond less. -/
theorem hits_until_of_half :
    let c := Client.daily
    let u := Uri.ofNames (c.context.cacheNames ⟨"deps", by decide⟩ none)
    let path := LocalPath.ofString "deps.zip"
    let half : Instant := ⟨Instant.noon2024.nanos + 500000, by decide⟩
    let next : Instant := ⟨Instant.noon2024.nanos + 1000000, by decide⟩
    let late : Instant := ⟨Instant.noon2024.nanos + 1000001, by decide⟩
    let w := { World.start half with disk := Disk.empty.put path (.file .empty) }
    ∃ put, c.putCache path "deps" none w = (.ok u, put) ∧
      c.Hits "deps" none 1000000 .empty { put with faults := .none, clock := next } ∧
      c.Evicts "deps" none 1000000 u { put with faults := .none, clock := late } := by
  intro c u path half next late w
  have hu : c.context.cacheUri "deps" none = .ok u :=
    Context.cacheUri_eq_ok_iff.2 ⟨⟨"deps", by decide⟩, none, rfl, rfl, rfl⟩
  have hread : w.disk.read path = .ok .empty := by rfl
  have hplace : ∀ o, w.store.find? c.area u = some o → o.kind = .file := by
    intro o ho
    cases ho
  have huntil := hits_until (w := w) rfl hu hread
  obtain ⟨put, hput⟩ := huntil.1.2 hplace
  have hnext : next.nanos - half.floor.nanos ≤ (1000000 : Nat) := by decide
  have hlate : (1000000 : Nat) < late.nanos - half.floor.nanos := by decide
  refine ⟨put, hput, ?_, ?_⟩
  · exact (huntil.2 put hput { put with faults := .none, clock := next } rfl rfl 1000000).1 hnext
  · exact (huntil.2 put hput { put with faults := .none, clock := late } rfl rfl 1000000).2.1 hlate

/-- An entry that is given no time at all has expired at the very instant that it is put, unless
that is the start of a millisecond. -/
theorem evicted_when_put :
    let c := Client.daily
    let u := Uri.ofNames (c.context.cacheNames ⟨"deps", by decide⟩ none)
    let path := LocalPath.ofString "deps.zip"
    let half : Instant := ⟨Instant.noon2024.nanos + 500000, by decide⟩
    let w := { World.start half with disk := Disk.empty.put path (.file .empty) }
    ∃ put, c.putCache path "deps" none w = (.ok u, put) ∧ put.faults = .none ∧
      c.time put = w.clock ∧ ¬c.Hits "deps" none 0 .empty put ∧ c.Evicts "deps" none 0 u put := by
  intro c u path half w
  have hu : c.context.cacheUri "deps" none = .ok u :=
    Context.cacheUri_eq_ok_iff.2 ⟨⟨"deps", by decide⟩, none, rfl, rfl, rfl⟩
  have hread : w.disk.read path = .ok .empty := by rfl
  obtain ⟨served, disk, o, hput, -, -, hstamp⟩ := exists_putCache_eq_ok (w := w) rfl hu hread
    fun o ho => by cases ho
  have hlate : half.floor.nanos + (0 : Nat) < half.nanos := by decide
  have hevicts : c.Evicts "deps" none 0 u
      { w with served, disk, store := w.store.insert c.area u o } := by
    refine evicts_of_lt rfl hu ?_ hstamp hlate
    rw [Store.find?_eq, Store.getElem?_insert, if_pos rfl]
  refine ⟨_, hput, rfl, rfl, fun hhits => ?_, hevicts⟩
  have hanswer := hhits.1.symm.trans hevicts.1
  cases hanswer

end Client

end Depot
