import Depot.Proofs.Action.Footprint
import Depot.Proofs.Client.Request

/-!
# Footprints of requests

Every operation of a client, and of the files of a namespace, has a footprint in the area that it
acts in. Operations on the cache have the footprint of their entry: they look at one key
(`readCache`, `putCache`, `removeCache`). Main statements: `Client.Request.footprint` and
`NamespaceFiles.Request.footprint`.
-/

namespace Depot

open Depot.Action (Footprint)

variable {reads writes : Store.Key → Prop}

namespace Client

variable {c : Client}

/-! ## The disk and the clocks -/

/-- The time is the same in worlds that differ in objects only. -/
theorem footprint_now (c : Client) : Footprint reads writes c.now := by
  refine .observe fun v w h => ?_
  cases c.clock with
  | shared => exact h.clock
  | wall => exact h.wall

theorem footprint_readLocal (path : LocalPath) : Footprint reads writes (readLocal path) := by
  refine .bind (.observe fun v w h => ?_) fun content => .ofExcept _
  rw [h.disk]

/-- Taking a local file away is no matter of the store. -/
theorem footprint_consuming {α : Type} {path : LocalPath} {act : Action α}
    (ha : Footprint reads writes act) : Footprint reads writes (consuming path act) := by
  refine .ensuring ha (fun w => rfl) fun v w h => ?_
  exact ⟨h.clock, h.wall, h.faults, h.checks, congrArg (·.unlink path) h.disk, h.objects⟩

/-! ## Writing files -/

theorem footprint_writeAt {source : Source} {uri : Uri} (hr : reads ⟨c.area, uri⟩)
    (hw : writes ⟨c.area, uri⟩) : Footprint reads writes (c.writeAt source uri) :=
  .bind (.ofExcept _) fun _ => .write hr hw

/-! ## The cache -/

section Cache

variable {cacheId : String} {objectId : Option String}

theorem footprint_isCacheExpired {uri : Uri} {ttl : Nat} (hr : reads ⟨c.area, uri⟩) :
    Footprint reads writes (c.isCacheExpired uri ttl) := by
  refine .bind (.bind (.attempt (.attributes hr)) fun r => ?_) fun modified => ?_
  · cases r with
    | ok a => exact .pure _
    | error e => exact .unless_absent _
  · cases modified with
    | none => exact .pure _
    | some modified => exact .bind (footprint_now c) fun _ => .pure _

/-- Reading an entry looks at its key, and may remove what is there. -/
theorem footprint_readCache {ttl : Option Nat}
    (hr : ∀ uri, c.context.cacheUri cacheId objectId = .ok uri → reads ⟨c.area, uri⟩)
    (hw : ∀ uri, c.context.cacheUri cacheId objectId = .ok uri →
      ∀ k, k.isUnder c.area uri = true → writes k) :
    Footprint reads writes (c.readCache cacheId objectId ttl) := by
  refine .guarded_bind fun uri hu => ?_
  -- With a time to live or without one, what is left to do depends on whether the entry is expired.
  extract_lets fetch
  have hfetch : ∀ expired, Footprint reads writes (fetch expired) := by
    intro expired
    simp only [fetch]
    split
    · exact .bind (.attempt (.remove (hr uri hu) (hw uri hu))) fun _ => .pure _
    · refine .bind (.attempt (.read (hr uri hu))) fun r => ?_
      cases r with
      | ok content => exact .pure _
      | error e => exact .unless_absent _
  cases ttl with
  | none => exact .bind (.pure _) hfetch
  | some ttl => exact .bind (footprint_isCacheExpired (hr uri hu)) hfetch

/-- Putting an entry looks at its key and changes what is there. -/
theorem footprint_putCache {path : LocalPath}
    (hr : ∀ uri, c.context.cacheUri cacheId objectId = .ok uri → reads ⟨c.area, uri⟩)
    (hw : ∀ uri, c.context.cacheUri cacheId objectId = .ok uri → writes ⟨c.area, uri⟩) :
    Footprint reads writes (c.putCache path cacheId objectId) :=
  footprint_consuming (.guarded_bind fun uri hu => .bind (footprint_readLocal path) fun _ =>
    footprint_writeAt (hr uri hu) (hw uri hu))

/-- Removing an entry looks at its key and may remove what is there. -/
theorem footprint_removeCache
    (hr : ∀ uri, c.context.cacheUri cacheId objectId = .ok uri → reads ⟨c.area, uri⟩)
    (hw : ∀ uri, c.context.cacheUri cacheId objectId = .ok uri →
      ∀ k, k.isUnder c.area uri = true → writes k) :
    Footprint reads writes (c.removeCache cacheId objectId) := by
  refine .guarded_bind fun uri hu => .bind (.contains (hr uri hu)) fun found => ?_
  split
  · exact .bind (.remove (hr uri hu) (hw uri hu)) fun _ => .pure _
  · exact .pure _

end Cache

/-! ## Opening files of a namespace -/

theorem footprint_openFiles (space : String) : Footprint reads writes (c.openFiles space) := by
  refine .guarded_bind fun n hn => ?_
  dsimp only
  split
  · refine .bind (.change (fun w => rfl) fun v w h => ?_) fun _ =>
      .bind (.ofExcept _) fun _ => .pure _
    exact ⟨h.clock, h.wall, h.faults, by rw [h.checks], h.disk, h.objects⟩
  · exact .pure _

/-- A client looks at the objects of its area only, and changes no others. -/
theorem Request.footprint (r : Request) (hr : ∀ k : Store.Key, k.area = c.area → reads k)
    (hw : ∀ k : Store.Key, k.area = c.area → writes k) :
    Footprint reads writes (r.perform c) := by
  have hr' : ∀ uri, reads ⟨c.area, uri⟩ := fun uri => hr _ rfl
  have hw' : ∀ uri, writes ⟨c.area, uri⟩ := fun uri => hw _ rfl
  have hru : ∀ uri k, k.isUnder c.area uri = true → reads k :=
    fun uri k h => hr k (Store.isUnder_iff.1 h).1
  have hwu : ∀ uri k, k.isUnder c.area uri = true → writes k :=
    fun uri k h => hw k (Store.isUnder_iff.1 h).1
  cases r with
  | contains given => exact .map (.guarded_bind fun uri _ => .contains (hr' uri)) _
  | read given => exact .map (.guarded_bind fun uri _ => .read (hr' uri)) _
  | attributes given => exact .map (.guarded_bind fun uri _ => .attributes (hr' uri)) _
  | remove given => exact .map (.guarded_bind fun uri _ => .remove (hr' uri) (hwu uri)) _
  | removeExecution => exact .map (.removeUnder (hru _) (hwu _)) _
  | putAt source given =>
    exact .map (.guarded_bind fun uri _ => footprint_writeAt (hr' uri) (hw' uri)) _
  | put source name =>
    exact .map (.guarded_bind fun uri _ => footprint_writeAt (hr' uri) (hw' uri)) _
  | putLocal path name =>
    exact .map (footprint_consuming (.guarded_bind fun _ _ => .guarded_bind fun uri _ =>
      .bind (footprint_readLocal path) fun _ => footprint_writeAt (hr' uri) (hw' uri))) _
  | readCache cacheId objectId ttl =>
    exact .map (footprint_readCache (fun uri _ => hr' uri) fun uri _ => hwu uri) _
  | putCache path cacheId objectId =>
    exact .map (footprint_putCache (fun uri _ => hr' uri) fun uri _ => hw' uri) _
  | removeCache cacheId objectId =>
    exact .map (footprint_removeCache (fun uri _ => hr' uri) fun uri _ => hwu uri) _
  | openFiles space => exact .map (footprint_openFiles space) _

end Client

namespace NamespaceFiles

variable {f : NamespaceFiles}

theorem footprint_all {path : Option String} {directories : Bool}
    (hr : ∀ k : Store.Key, k.area = f.area → reads k) :
    Footprint reads writes (f.all path directories) :=
  .guarded_bind fun _ _ =>
    .bind (.list fun k h => hr k (Store.isUnder_iff.1 h).1) fun _ => .guarded _

/-- Putting a file looks at its key and changes what is there. -/
theorem footprint_put {path : String} {source : Source} {policy : OnConflict}
    (hr : ∀ uri, f.uriOf path = .ok uri → reads ⟨f.area, uri⟩)
    (hw : ∀ uri, f.uriOf path = .ok uri → writes ⟨f.area, uri⟩) :
    Footprint reads writes (f.put path source policy) := by
  refine .guarded_bind fun uri hu => ?_
  -- Only the policies that do not overwrite look whether there is something.
  extract_lets put
  have hput : ∀ taken, Footprint reads writes (put taken) := by
    intro taken
    simp only [put]
    split
    · exact .throw_bind _ _
    · split
      · exact .guarded _
      · exact .bind (.ofExcept _) fun _ => .bind (.write (hr uri hu) (hw uri hu)) fun _ =>
          .guarded _
  split
  · exact .bind (.pure _) hput
  · exact .bind (.contains (hr uri hu)) hput

/-- Files of a namespace are objects of its area, and operations on them change no others. -/
theorem Request.footprint (r : Request) (hr : ∀ k : Store.Key, k.area = f.area → reads k)
    (hw : ∀ k : Store.Key, k.area = f.area → writes k) :
    Footprint reads writes (r.perform f) := by
  have hr' : ∀ uri, reads ⟨f.area, uri⟩ := fun uri => hr _ rfl
  have hw' : ∀ uri, writes ⟨f.area, uri⟩ := fun uri => hw _ rfl
  cases r with
  | all path directories => exact .map (footprint_all hr) _
  | find includes excludes =>
    exact .map (.guarded_bind fun filter _ => .bind (footprint_all hr) fun _ => .pure _) _
  | contains path => exact .map (.guarded_bind fun uri _ => .contains (hr' uri)) _
  | read path => exact .map (.guarded_bind fun uri _ => .read (hr' uri)) _
  | put path source policy =>
    exact .map (footprint_put (fun uri _ => hr' uri) fun uri _ => hw' uri) _
  | makeDirectory path =>
    exact .map (.guarded_bind fun uri _ => .bind (.makeDirectory (hr' uri) (hw' uri)) fun _ =>
      .pure _) _
  | remove path =>
    exact .map (.guarded_bind fun uri _ => .remove (hr' uri) fun k h =>
      hw k (Store.isUnder_iff.1 h).1) _

end NamespaceFiles

end Depot
