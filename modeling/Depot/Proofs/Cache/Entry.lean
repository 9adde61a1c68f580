import Depot.Client.Cache
import Depot.Proofs.Action.Calls

/-!
# Requests on one entry

What a request on the cache does where nothing is wrong with the backend: the answer and the store
that it leaves, told from what is at the reference of the entry (`Client.readCache_apply`,
`Client.putCache_apply`, `Client.removeCache_apply`).

Stored objects carry the whole millisecond of the instant that they were put at, which is an instant
too (`Instant.ofMillis?_millis`). An entry is expired if the clock shows more than that instant and
the time that the entry is given; that this time may be too long for a span, and that the sum may be
no instant any more, makes no difference, because then no clock shows more (`Client.isExpired_iff`).
-/

namespace Depot

namespace Instant

/-- The start of the millisecond that an instant is in. -/
def floor (t : Instant) : Instant where
  nanos := t.millis * nanosPerMilli
  inRange := by
    have hrange := t.inRange
    simp only [millis, minNanos, maxNanos, nanosPerMilli, nanosPerSecond] at hrange ⊢
    omega

theorem ofMillis?_millis (t : Instant) : ofMillis? t.millis = some t.floor := by
  unfold ofMillis? ofNanos?
  exact dif_pos t.floor.inRange

end Instant

namespace Client

theorem isExpired_iff {now modified : Instant} {ttl : Nat} :
    isExpired now modified ttl = true ↔ modified.nanos + ttl < now.nanos := by
  have hnow := now.inRange
  have hmodified := modified.inRange
  unfold isExpired
  by_cases hspan : (ttl : Int) ≤ Span.maxNanos
  · have hfits : -Span.maxNanos ≤ (ttl : Int) ∧ (ttl : Int) ≤ Span.maxNanos := by
      simp only [Span.maxNanos, Instant.nanosPerMilli] at hspan ⊢
      omega
    rw [Span.ofNanos?, dif_pos hfits, Option.bind_some, Span.after?, Instant.add?, Instant.ofNanos?]
    split
    · next last hlast =>
      split at hlast
      · rw [← Option.some.inj hlast]
        simp
      · cases hlast
    · next hlast =>
      split at hlast
      · cases hlast
      · -- The end is no instant, so that it is later than all of them.
        dsimp only at *
        simp only [Bool.false_eq_true, false_iff]
        omega
  · -- The longest span is longer than any two instants are apart.
    rw [Span.ofNanos?, dif_neg fun hfits => hspan hfits.2]
    simp only [Span.maxNanos, Instant.nanosPerMilli, Instant.minNanos, Instant.maxNanos,
      Instant.nanosPerSecond, Option.bind_none, Bool.false_eq_true, false_iff] at *
    omega

variable {c : Client} {cacheId : String} {objectId : Option String} {u : Uri} {w : World}

/-- What the clock of a client shows. -/
def time (c : Client) (w : World) : Instant :=
  match c.clock with
  | .shared => w.clock
  | .wall => w.wall

/-- Whether what is at a reference is older than it may be. -/
def isStale (c : Client) (w : World) (uri : Uri) (ttl : Option Nat) : Bool :=
  ttl.any fun ttl => (w.store.find? c.area uri).any fun o =>
    (Instant.ofMillis? o.modified).any fun modified => isExpired (c.time w) modified ttl

/-- Without a time to live nothing is looked at, and with one the attributes are. -/
theorem isCacheExpired_apply (hserved : w.faults.failing .attributes = none) (uri : Uri)
    (ttl : Nat) :
    c.isCacheExpired uri ttl w = (.ok (c.isStale w uri (some ttl)), w.serving w.store) := by
  have hattributes : (Backend.attributes c.area uri).attempt w =
      (.ok (w.store.attributes c.area uri), w.serving w.store) := by
    rw [Action.attempt, Backend.attributes_apply hserved]
  unfold isCacheExpired cacheModified
  rw [Action.bind_apply, Action.bind_apply, hattributes]
  simp only [isStale, Option.any_some, Store.attributes]
  cases w.store.find? c.area uri with
  | none => rfl
  | some o =>
    cases hmodified : Instant.ofMillis? o.modified with
    | none =>
      have hread : (o.attributes uri).lastModified = none := hmodified
      simp only [Option.any_some, Option.any_none, hmodified, hread, Action.pure_apply]
    | some modified =>
      have hread : (o.attributes uri).lastModified = some modified := hmodified
      simp only [Option.any_some, hmodified, hread, Action.pure_apply]
      rfl

/-- What is left to do once it is known whether an entry is stale. -/
def fetch (c : Client) (uri : Uri) (stale : Bool) : Action (Option ByteArray) := do
  if stale then
    let _ ← (Backend.remove c.area uri).attempt
    return none
  match ← (Backend.read c.area uri).attempt with
  | .ok content => return some content
  | .error e => if e.isAbsent then return none else throw e

/-- The first step asks whether an entry is stale, which none is without a time to live. -/
def askStale (c : Client) (uri : Uri) : Option Nat → Action Bool
  | some ttl => c.isCacheExpired uri ttl
  | none => pure false

theorem readCache_eq (c : Client) (cacheId : String) (objectId : Option String)
    (ttl : Option Nat) :
    c.readCache cacheId objectId ttl = (do
      let uri ← Action.guarded (c.context.cacheUri cacheId objectId)
      let stale ← c.askStale uri ttl
      c.fetch uri stale) := by
  cases ttl <;> rfl

/-- Once it is known whether an entry is stale, nothing but the rest is left to do. -/
theorem readCache_of_askStale {ttl : Option Nat} {stale : Bool} {v : World}
    (hu : c.context.cacheUri cacheId objectId = .ok u)
    (hask : c.askStale u ttl w = (.ok stale, v)) :
    c.readCache cacheId objectId ttl w = c.fetch u stale v := by
  rw [readCache_eq, Action.guarded_bind_of_ok _ w hu, Action.bind_apply, hask]

theorem fetch_true (hw : w.faults = .none) :
    c.fetch u true w = (.ok none, w.serving (w.store.remove c.area u).2) := by
  have hremove : (Backend.remove c.area u).attempt w =
      (.ok (.ok (w.store.contains c.area u)), w.serving (w.store.remove c.area u).2) := by
    rw [Action.attempt, Backend.remove_apply (congrArg (·.failing .delete) hw)]
  unfold fetch
  rw [if_pos rfl, Action.bind_apply, hremove]
  rfl

/-- That nothing is there is no failure. -/
theorem fetch_false (hw : w.faults = .none) :
    c.fetch u false w =
      (match w.store.read c.area u with
        | .ok content => .ok (some content)
        | .error e => if e.isAbsent = true then .ok none else .error e,
      w.serving w.store) := by
  have hread : (Backend.read c.area u).attempt w =
      (.ok (w.store.read c.area u), w.serving w.store) := by
    rw [Action.attempt, Backend.read_apply (congrArg (·.failing .get) hw)]
  unfold fetch
  rw [if_neg Bool.false_ne_true, Action.bind_apply, hread]
  dsimp only
  cases w.store.read c.area u with
  | ok content => rfl
  | error e =>
    dsimp only
    cases e.isAbsent <;> rfl

/-- What is stale is removed, and the answer is that there is nothing. Anything else is answered as
it is. -/
theorem readCache_apply (ttl : Option Nat) (hw : w.faults = .none)
    (hu : c.context.cacheUri cacheId objectId = .ok u) :
    ∃ served, c.readCache cacheId objectId ttl w =
      if c.isStale w u ttl = true then
        (.ok none, { w with served, store := (w.store.remove c.area u).2 })
      else
        (match w.store.read c.area u with
          | .ok content => .ok (some content)
          | .error e => if e.isAbsent = true then .ok none else .error e,
        { w with served }) := by
  -- Without a time to live the store is asked once, and with one it is asked twice.
  have hstale : ∃ served, c.askStale u ttl w = (.ok (c.isStale w u ttl), { w with served }) := by
    cases ttl with
    | none => exact ⟨w.served, rfl⟩
    | some ttl =>
      exact ⟨w.served + 1, isCacheExpired_apply (congrArg (·.failing .attributes) hw) u ttl⟩
  obtain ⟨served, hstale⟩ := hstale
  refine ⟨served + 1, ?_⟩
  rw [readCache_of_askStale hu hstale]
  cases c.isStale w u ttl with
  | true => exact fetch_true hw
  | false => exact fetch_false hw

/-- The local file takes the place of what was there, and is gone from where it came from. -/
theorem putCache_apply (hw : w.faults = .none) (hu : c.context.cacheUri cacheId objectId = .ok u)
    {path : LocalPath} {content : ByteArray} (hread : w.disk.read path = .ok content) :
    ∃ served disk, c.putCache path cacheId objectId w =
      match Store.writtenOver w.clock.millis u content (w.store.find? c.area u) with
      | .ok o => (.ok u, { w with served, disk, store := w.store.insert c.area u o })
      | .error e => (.error e, { w with served, disk }) := by
  have hwrite : Backend.write c.area u content w = _ :=
    Backend.write_apply (congrArg (·.failing .put) hw) (congrArg Faults.putReturns hw) content
  refine ⟨w.served + 1, w.disk.unlink path, ?_⟩
  have hact : (do
      let uri ← Action.guarded (c.context.cacheUri cacheId objectId)
      let content ← readLocal path
      c.writeAt (.ofBytes content) uri : Action Uri) w = Backend.write c.area u content w := by
    rw [Action.guarded_bind_apply, hu]
    dsimp only
    rw [Action.bind_apply, readLocal, Action.bind_apply, Action.observe, hread]
    rfl
  unfold putCache consuming Action.ensuring
  rw [hact, hwrite]
  cases Store.writtenOver w.clock.millis u content (w.store.find? c.area u) <;> rfl

/-- An entry is removed and its removal is answered, and where there is none nothing is. -/
theorem removeCache_apply (hw : w.faults = .none)
    (hu : c.context.cacheUri cacheId objectId = .ok u) :
    ∃ served, c.removeCache cacheId objectId w =
      if w.store.contains c.area u = true then
        (.ok (some true), { w with served, store := (w.store.remove c.area u).2 })
      else (.ok none, { w with served }) := by
  have hcontains : Backend.contains c.area u w = _ :=
    Backend.contains_apply (congrArg (·.failing .exists) hw)
  unfold removeCache
  rw [Action.guarded_bind_apply, hu]
  dsimp only
  rw [Action.bind_apply, hcontains]
  cases hthere : w.store.contains c.area u with
  | false => exact ⟨w.served + 1, rfl⟩
  | true =>
    let v := w.serving w.store
    have hv : v.faults.failing .delete = none := congrArg (·.failing .delete) hw
    have hremove :
        Backend.remove c.area u v = (.ok true, v.serving (v.store.remove c.area u).2) := by
      rw [Backend.remove_apply hv, ← hthere]
      rfl
    refine ⟨w.served + 2, ?_⟩
    dsimp only
    rw [if_pos rfl, if_pos rfl, Action.bind_apply, hremove]
    rfl

end Client

end Depot
