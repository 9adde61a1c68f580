import Depot.Proofs.Action.Settled
import Depot.Proofs.Client.Listing
import Depot.Proofs.Client.Footprint

/-!
# Failing without a trace

Every operation checks and reads first, and has at most one step that changes objects, with nothing
after it that can fail. So whichever calls fail at the front, and wherever a source breaks off, a
failed request leaves all objects as they were. Requests that only look never change any
(`Ask.looks`), and a request that writes changes what is at the one reference that it answers with
(`Ask.settles`, `Ask.footprint_of_writesTo`).

A cache entry that is found to be expired is removed on the way, but then the answer is that there
is none, even if the removal fails.
-/

namespace Depot

open Depot.Action (Footprint Looks Settles)

namespace Client

variable {c : Client} {cacheId : String} {objectId : Option String}

theorem looks_readLocal (path : LocalPath) : Looks (readLocal path) :=
  .bind (.observe _) fun _ => .ofExcept _

theorem looks_openFiles (space : String) : Looks (c.openFiles space) := by
  refine .bind (.guarded _) fun n => ?_
  dsimp only
  split
  · exact .bind (fun w => ⟨w.served, _, rfl⟩) fun _ => .bind (.ofExcept _) fun _ => .pure _
  · exact .pure _

theorem looks_isCacheExpired (uri : Uri) (ttl : Nat) : Looks (c.isCacheExpired uri ttl) := by
  refine .bind (.bind (.attempt .attributes) fun r => ?_) fun modified => ?_
  · cases r with
    | ok a => exact .pure _
    | error e => exact .unless_absent _
  · cases modified with
    | none => exact .pure _
    | some modified => exact .bind (.observe _) fun _ => .pure _

theorem settles_writeAt {source : Source} {uri : Uri} :
    Settles (· = uri) (c.writeAt source uri) :=
  .looks_bind (.ofExcept _) fun _ => .write

/-- A reference that is let in is written to, and answered. -/
theorem settles_guarded_writeAt {source : Source} {r : Except BadReference Uri} :
    Settles (r = .ok ·) (Action.guarded r >>= c.writeAt source) := by
  refine .guarded_bind fun uri hu => ?_
  exact .mono settles_writeAt fun u h => h ▸ hu

theorem settles_putLocal {path : LocalPath} {name : Option String} :
    Settles (fun u => (Request.putLocal path name).WritesTo c u) (c.putLocal path name) := by
  refine .ensuring (.guarded_bind fun n hn => .guarded_bind fun uri hu => ?_) fun _ => rfl
  refine .looks_bind (looks_readLocal path) fun content => ?_
  exact .mono settles_writeAt fun u h => ⟨n, hn, h ▸ hu⟩

theorem settles_putCache {path : LocalPath} :
    Settles (c.context.cacheUri cacheId objectId = .ok ·) (c.putCache path cacheId objectId) := by
  refine .ensuring (.guarded_bind fun uri hu => ?_) fun _ => rfl
  refine .looks_bind (looks_readLocal path) fun content => ?_
  exact .mono settles_writeAt fun u h => h ▸ hu

/-- A failing read has removed nothing: an entry is only removed when the answer is settled. -/
theorem settles_readCache {ttl : Option Nat} :
    Settles (fun _ => True) (c.readCache cacheId objectId ttl) := by
  refine .guarded_bind fun uri _ => ?_
  extract_lets fetch
  have hfetch : ∀ expired, Settles (fun _ => True) (fetch expired) := by
    intro expired
    simp only [fetch]
    split
    · -- Whether an expired entry can be removed or not, there is an answer.
      exact .attempt_bind_pure trivial
    · refine .of_looks (.bind (.attempt .read) fun r => ?_)
      cases r with
      | ok content => exact .pure _
      | error e => exact .unless_absent _
  cases ttl with
  | none => exact .looks_bind (.pure _) hfetch
  | some ttl => exact .looks_bind (looks_isCacheExpired uri ttl) hfetch

theorem settles_removeCache : Settles (fun _ => True) (c.removeCache cacheId objectId) := by
  refine .guarded_bind fun uri _ => .looks_bind .contains fun found => ?_
  split
  · exact .bind_done .remove fun _ _ => ⟨_, trivial, rfl⟩
  · exact .pure trivial

end Client

namespace NamespaceFiles

variable {f : NamespaceFiles} {path : String} {uri : Uri}

theorem looks_all {path : Option String} {directories : Bool} : Looks (f.all path directories) :=
  .bind (.guarded _) fun _ => .bind .list fun _ => .guarded _

theorem uri_of_fileAt {directory : Bool} {file : NamespaceFile}
    (h : f.fileAt uri directory = .ok file) : file.uri = uri := by
  unfold fileAt at h
  split at h
  · rw [← Except.ok.inj h]
  · cases h

theorem directory_of_fileAt {directory : Bool} {file : NamespaceFile}
    (h : f.fileAt uri directory = .ok file) : file.directory = directory := by
  unfold fileAt at h
  split at h
  · rw [← Except.ok.inj h]
  · cases h

/-- What has been written is a file of the namespace, so that it can be reported. -/
theorem settles_put {source : Source} {policy : OnConflict} :
    Settles (fun file => f.uriOf path = .ok file.uri) (f.put path source policy) := by
  refine .guarded_bind fun uri hu => ?_
  have hreport : ∃ file : NamespaceFile, f.uriOf path = .ok file.uri ∧
      f.fileAt uri false = .ok file := by
    obtain ⟨file, hfile⟩ := exists_fileAt_eq_ok_iff.2 (startsWith_root_of_uriOf hu)
    exact ⟨file, (uri_of_fileAt hfile).symm ▸ hu, hfile⟩
  obtain ⟨file, hplace, hfile⟩ := hreport
  extract_lets put
  have hput : ∀ taken, Settles (fun file : NamespaceFile => f.uriOf path = .ok file.uri)
      (put taken) := by
    intro taken
    simp only [put, hfile]
    split
    · -- The file is refused before anything is read or written.
      exact .throw_bind _ _
    · split
      · exact .pure hplace
      · refine .looks_bind (.ofExcept _) fun content => .bind_done .write fun written h => ?_
        exact ⟨file, hplace, by rw [h, hfile]; rfl⟩
  split
  · exact .looks_bind (.pure _) hput
  · exact .looks_bind .contains hput

end NamespaceFiles

/-! ## Kinds of requests -/

/-- The request only looks. -/
def Client.Request.IsLook : Client.Request → Prop
  | .contains _ | .read _ | .attributes _ | .openFiles _ => True
  | _ => False

/-- The request writes one object. -/
def Client.Request.IsWrite : Client.Request → Prop
  | .putAt .. | .put .. | .putLocal .. | .putCache .. => True
  | _ => False

/-- The request only looks. -/
def NamespaceFiles.Request.IsLook : NamespaceFiles.Request → Prop
  | .all .. | .find .. | .contains _ | .read _ => True
  | _ => False

/-- The request writes one object. -/
def NamespaceFiles.Request.IsWrite : NamespaceFiles.Request → Prop
  | .put .. | .makeDirectory _ => True
  | _ => False

/-- The reference that is answered. -/
def Answer.place? : Answer → Option Uri
  | .uri u => some u
  | .file f => some f.uri
  | _ => none

namespace Ask

/-- What is asked for is only to look. -/
def IsLook : Ask → Prop
  | client _ r => r.IsLook
  | files _ r => r.IsLook

/-- What is asked for is to write one object. -/
def IsWrite : Ask → Prop
  | client _ r => r.IsWrite
  | files _ r => r.IsWrite

variable {a : Ask} {u : Uri}

theorem looks (h : a.IsLook) : Looks a.perform := by
  cases a with
  | client c r =>
    cases r with
    | contains given => exact .map (.bind (.guarded _) fun _ => .contains) _
    | read given => exact .map (.bind (.guarded _) fun _ => .read) _
    | attributes given => exact .map (.bind (.guarded _) fun _ => .attributes) _
    | openFiles space => exact .map (Client.looks_openFiles space) _
    | _ => exact h.elim
  | files f r =>
    cases r with
    | all path directories => exact .map NamespaceFiles.looks_all _
    | find includes excludes =>
      exact .map (.bind (.guarded _) fun _ => .bind NamespaceFiles.looks_all fun _ => .pure _) _
    | contains path => exact .map (.bind (.guarded _) fun _ => .contains) _
    | read path => exact .map (.bind (.guarded _) fun _ => .read) _
    | _ => exact h.elim

/-- Every request settles, and one that writes answers where it writes. -/
theorem settles (a : Ask) :
    Settles (fun answer => a.IsWrite → ∃ u, a.WritesTo u ∧ answer.place? = some u) a.perform := by
  have hlook : ∀ {a : Ask}, a.IsLook → ¬a.IsWrite →
      Settles (fun answer => a.IsWrite → ∃ u, a.WritesTo u ∧ answer.place? = some u)
        a.perform :=
    fun h hn => .mono (.of_looks (looks h)) fun _ _ hw => absurd hw hn
  cases a with
  | client c r =>
    cases r with
    | contains given => exact hlook trivial id
    | read given => exact hlook trivial id
    | attributes given => exact hlook trivial id
    | openFiles space => exact hlook trivial id
    | remove given => exact .map (.guarded_bind fun _ _ => .remove) fun _ _ => False.elim
    | removeExecution => exact .map .removeUnder fun _ _ => False.elim
    | readCache cacheId objectId ttl =>
      exact .map Client.settles_readCache fun _ _ => False.elim
    | removeCache cacheId objectId =>
      exact .map Client.settles_removeCache fun _ _ => False.elim
    | putAt source given => exact .map Client.settles_guarded_writeAt fun u h _ => ⟨u, h, rfl⟩
    | put source name => exact .map Client.settles_guarded_writeAt fun u h _ => ⟨u, h, rfl⟩
    | putLocal path name => exact .map Client.settles_putLocal fun u h _ => ⟨u, h, rfl⟩
    | putCache path cacheId objectId =>
      exact .map Client.settles_putCache fun u h _ => ⟨u, h, rfl⟩
  | files f r =>
    cases r with
    | all path directories => exact hlook trivial id
    | find includes excludes => exact hlook trivial id
    | contains path => exact hlook trivial id
    | read path => exact hlook trivial id
    | remove path => exact .map (.guarded_bind fun _ _ => .remove) fun _ _ => False.elim
    | put path source policy =>
      exact .map NamespaceFiles.settles_put fun file h _ => ⟨file.uri, h, rfl⟩
    | makeDirectory path =>
      refine .map (p := fun u => f.uriOf path = .ok u) (.guarded_bind fun uri hu => ?_)
        fun u h _ => ⟨u, h, rfl⟩
      exact .bind_done .makeDirectory fun _ _ => ⟨uri, hu, rfl⟩

/-- A request that writes at a reference changes what is there and nothing else. -/
theorem footprint_of_writesTo (h : a.WritesTo u) :
    Footprint (fun _ => True) (· = ⟨a.area, u⟩) a.perform := by
  have same : ∀ {r : Except BadReference Uri} {area : Area}, r = .ok u → ∀ uri, r = .ok uri →
      (⟨area, uri⟩ : Store.Key) = ⟨area, u⟩ := by
    intro r area hu uri huri
    rw [Except.ok.inj (huri.symm.trans hu)]
  cases a with
  | client c r =>
    cases r with
    | putAt source given =>
      exact .map (.guarded_bind fun uri huri =>
        Client.footprint_writeAt trivial (same h uri huri)) _
    | put source name =>
      exact .map (.guarded_bind fun uri huri =>
        Client.footprint_writeAt trivial (same h uri huri)) _
    | putLocal path name =>
      obtain ⟨n, hn, hu⟩ := h
      refine .map (Client.footprint_consuming (.guarded_bind fun m hm =>
        .guarded_bind fun uri huri => .bind (Client.footprint_readLocal path) fun _ => ?_)) _
      have hname : n = m := Except.ok.inj (hn.symm.trans hm)
      exact Client.footprint_writeAt trivial (same (hname ▸ hu) uri huri)
    | putCache path cacheId objectId =>
      exact .map (Client.footprint_putCache (fun _ _ => trivial) (same h)) _
    | _ => exact h.elim
  | files f r =>
    cases r with
    | put path source policy =>
      exact .map (NamespaceFiles.footprint_put (fun _ _ => trivial) (same h)) _
    | makeDirectory path =>
      exact .map (.guarded_bind fun uri huri =>
        .bind (.makeDirectory trivial (same h uri huri)) fun _ => .pure _) _
    | _ => exact h.elim

/-- Whatever calls fail at the front: a request that fails leaves all objects as they were, a
request that looks does in any case, and one that writes changes what is at the reference that it
answers with and nothing else. -/
theorem all_or_nothing (a : Ask) (w : World) (hw : w.faults.putReturns = none) :
    (∀ e, (a.perform w).1 = .error e → (a.perform w).2.store = w.store) ∧
    (a.IsLook → (a.perform w).2.store = w.store) ∧
    (a.IsWrite → ∀ answer, (a.perform w).1 = .ok answer →
      ∃ u, a.WritesTo u ∧ answer.place? = some u ∧
        ∀ k : Store.Key, k ≠ ⟨a.area, u⟩ →
          (a.perform w).2.store.objects[k]? = w.store.objects[k]?) := by
  have hsettles := a.settles w hw
  refine ⟨?_, ?_, ?_⟩
  · intro e he
    rwa [he] at hsettles
  · intro hlook
    exact (looks hlook).store_eq w
  · intro hwrite answer hanswer
    rw [hanswer] at hsettles
    obtain ⟨u, hu, hplace⟩ := hsettles hwrite
    exact ⟨u, hu, hplace, fun k hk => (footprint_of_writesTo hu).frame w k hk⟩

/-- A write that the backend fails to serve leaves no trace, and one that it serves leaves a file
and nothing else. -/
theorem all_or_nothing_of_put :
    let put := Ask.client .daily (.put (.ofBytes .empty) "report.csv")
    let down : Failure := .backend (.stated "down")
    let v : World := World.start .noon2024
    let w := { v with faults := Faults.none.set .put (some down) }
    ((put.perform w).1 = .error down ∧ (put.perform w).2.store = w.store) ∧
      ∃ u, (put.perform v).1 = .ok (.uri u) ∧ put.WritesTo u ∧
        ∀ k : Store.Key, k ≠ ⟨put.area, u⟩ →
          (put.perform v).2.store.objects[k]? = v.store.objects[k]? := by
  intro put down v w
  have hfailed : (put.perform w).1 = .error down := by rfl
  have hserved : ∃ u, (put.perform v).1 = .ok (.uri u) := ⟨_, by rfl⟩
  obtain ⟨u, hu⟩ := hserved
  obtain ⟨u', hwrites, hplace, hframe⟩ := (put.all_or_nothing v rfl).2.2 trivial _ hu
  have huu : u = u' := Option.some.inj hplace
  exact ⟨⟨hfailed, (put.all_or_nothing w rfl).1 _ hfailed⟩, u, hu, huu ▸ hwrites, huu ▸ hframe⟩

end Ask

end Depot
