import Depot.Proofs.Action.Invariant
import Depot.Proofs.Client.Request

/-!
# Invariants of requests

What a request keeps follows from what the operations of the store that it is made of keep. An
operation on the cache writes and removes at the reference of its entry only.
-/

namespace Depot.Client

open Depot.Action (Keeps)

variable {inv : Store → Prop} {c : Client}

theorem keeps_now (c : Client) : Keeps inv c.now :=
  .observe _

theorem keeps_readLocal (path : LocalPath) : Keeps inv (readLocal path) :=
  .bind (.observe _) fun _ => .ofExcept _

theorem keeps_consuming {α : Type} {path : LocalPath} {act : Action α} (ha : Keeps inv act) :
    Keeps inv (consuming path act) :=
  .ensuring ha fun _ => rfl

theorem keeps_writeAt {source : Source} {uri : Uri}
    (hw : ∀ s now content o, inv s →
      Store.writtenOver now uri content (s.find? c.area uri) = .ok o →
        inv (s.insert c.area uri o)) :
    Keeps inv (c.writeAt source uri) :=
  .bind (.ofExcept _) fun content => .write fun s now o => hw s now content o

/-! ## The cache -/

section Cache

variable {cacheId : String} {objectId : Option String}

theorem keeps_isCacheExpired (uri : Uri) (ttl : Nat) : Keeps inv (c.isCacheExpired uri ttl) := by
  refine .bind (.bind (.attempt .attributes) fun r => ?_) fun modified => ?_
  · cases r with
    | ok a => exact .pure _
    | error e => exact .unless_absent _
  · cases modified with
    | none => exact .pure _
    | some modified => exact .bind (keeps_now c) fun _ => .pure _

theorem keeps_readCache {ttl : Option Nat}
    (hr : ∀ uri, c.context.cacheUri cacheId objectId = .ok uri →
      ∀ s, inv s → inv (s.remove c.area uri).2) :
    Keeps inv (c.readCache cacheId objectId ttl) := by
  refine .guarded_bind fun uri hu => ?_
  -- Looking whether the entry is expired changes nothing; what comes after it may remove the entry.
  extract_lets fetch
  have hfetch : ∀ expired, Keeps inv (fetch expired) := by
    intro expired
    simp only [fetch]
    split
    · exact .bind (.attempt (.remove (hr uri hu))) fun _ => .pure _
    · refine .bind (.attempt .read) fun r => ?_
      cases r with
      | ok content => exact .pure _
      | error e => exact .unless_absent _
  cases ttl with
  | none => exact .bind (.pure _) hfetch
  | some ttl => exact .bind (keeps_isCacheExpired uri ttl) hfetch

theorem keeps_putCache {path : LocalPath}
    (hw : ∀ uri, c.context.cacheUri cacheId objectId = .ok uri → ∀ s now content o, inv s →
      Store.writtenOver now uri content (s.find? c.area uri) = .ok o →
        inv (s.insert c.area uri o)) :
    Keeps inv (c.putCache path cacheId objectId) :=
  keeps_consuming (.guarded_bind fun uri hu => .bind (keeps_readLocal path) fun _ =>
    keeps_writeAt (hw uri hu))

theorem keeps_removeCache
    (hr : ∀ uri, c.context.cacheUri cacheId objectId = .ok uri →
      ∀ s, inv s → inv (s.remove c.area uri).2) :
    Keeps inv (c.removeCache cacheId objectId) := by
  refine .guarded_bind fun uri hu => .bind .contains fun found => ?_
  split
  · exact .bind (.remove (hr uri hu)) fun _ => .pure _
  · exact .pure _

end Cache

theorem keeps_openFiles (space : String) : Keeps inv (c.openFiles space) := by
  refine .guarded_bind fun n hn => ?_
  dsimp only
  split
  · exact .bind (.change fun _ => rfl) fun _ => .bind (.ofExcept _) fun _ => .pure _
  · exact .pure _

end Depot.Client

namespace Depot.NamespaceFiles

open Depot.Action (Keeps)

variable {inv : Store → Prop} {f : NamespaceFiles}

theorem keeps_all {path : Option String} {directories : Bool} :
    Keeps inv (f.all path directories) :=
  .guarded_bind fun _ _ => .bind .list fun _ => .guarded _

theorem keeps_put {path : String} {source : Source} {policy : OnConflict}
    (hw : ∀ uri, f.uriOf path = .ok uri → ∀ s now content o, inv s →
      Store.writtenOver now uri content (s.find? f.area uri) = .ok o →
        inv (s.insert f.area uri o)) :
    Keeps inv (f.put path source policy) := by
  refine .guarded_bind fun uri hu => ?_
  extract_lets put
  have hput : ∀ taken, Keeps inv (put taken) := by
    intro taken
    simp only [put]
    split
    · exact .throw_bind _ _
    · split
      · exact .guarded _
      · exact .bind (.ofExcept _) fun content =>
          .bind (.write fun s now o => hw uri hu s now content o) fun _ => .guarded _
  split
  · exact .bind (.pure _) hput
  · exact .bind .contains hput

end Depot.NamespaceFiles
