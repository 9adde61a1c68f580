import Depot.Proofs.Client.Ask
import Depot.Proofs.Client.Confinement

/-!
# What is not let in

A client looks at what it is handed before it does anything. A reference that is not let in, a name
or a path that leads nowhere, an identifier or a namespace that is none: the request is refused as
it is, and apart from a local file that was handed over nothing in the world has changed, no call
has been made, and no question has been asked (`Ask.perform_of_refused`). So it does not matter what
the content would have been, or whether it could have been read.
-/

namespace Depot

/-! ## Requests that are refused as they are -/

/-- One of the identifiers of a cache entry is not a name; the first is looked at first. -/
def Context.RefusesIds (cacheId : String) (objectId : Option String) (e : BadReference) : Prop :=
  Name.read "cache id" cacheId = .error e ∨
    (∃ cache, Name.read "cache id" cacheId = .ok cache) ∧
      ∃ id, objectId = some id ∧ Name.read "object id" id = .error e

/-- What a client is handed with a request is not let in. -/
def Client.Request.Refused (c : Client) (e : BadReference) : Client.Request → Prop
  | .contains given | .read given | .attributes given | .remove given | .putAt _ given =>
    Uri.letIn given = .error e
  | .removeExecution => False
  | .put _ name => c.context.baseUri.resolve name = .error e
  | .putLocal path name =>
    handedName path name = .error e ∨
      ∃ n, handedName path name = .ok n ∧ c.context.baseUri.resolve n = .error e
  | .readCache cacheId objectId _ | .putCache _ cacheId objectId | .removeCache cacheId objectId =>
    Context.RefusesIds cacheId objectId e
  | .openFiles space => Namespace.read space = .error e

/-- What is asked of the files of a namespace names nothing that could be one of them. -/
def NamespaceFiles.Request.Refused (f : NamespaceFiles) (e : BadReference) :
    NamespaceFiles.Request → Prop
  | .all path _ => f.startOf path = .error e
  | .find includes excludes => PathFilter.ofTexts includes excludes = .error e
  | .contains path | .read path | .put path _ _ | .makeDirectory path | .remove path =>
    f.uriOf path = .error e

theorem Context.cacheUri_eq_error {c : Context} {cacheId : String} {objectId : Option String}
    {e : BadReference} (h : RefusesIds cacheId objectId e) :
    c.cacheUri cacheId objectId = .error e := by
  unfold cacheUri
  rcases h with hcache | ⟨⟨cache, hcache⟩, id, rfl, hobject⟩
  · rw [hcache]
    rfl
  · rw [hcache]
    dsimp only [bind, Except.bind]
    rw [hobject]
    rfl

namespace Ask

/-- What is asked for is refused as it is. -/
def Refused (e : BadReference) : Ask → Prop
  | client c r => r.Refused c e
  | files f r => r.Refused f e

/-- The local file that is handed over. -/
def handed? : Ask → Option LocalPath
  | client _ (.putLocal path _) | client _ (.putCache path _ _) => some path
  | _ => none

/-- The same request with another content to write. -/
def handing (source : Source) : Ask → Ask
  | client c (.putAt _ given) => client c (.putAt source given)
  | client c (.put _ name) => client c (.put source name)
  | files f (.put path _ policy) => files f (.put path source policy)
  | a => a

end Ask

/-- The world without the local file that has been handed over. -/
def World.taking (w : World) : Option LocalPath → World
  | some path => { w with disk := w.disk.unlink path }
  | none => w

/-! ## What comes of them -/

theorem Action.map_of_error {α β : Type} {act : Action α} {w v : World} {e : Failure} (g : α → β)
    (h : act w = (.error e, v)) : (g <$> act) w = (.error e, v) := by
  rw [map_apply, h]
  rfl

theorem Client.consuming_of_error {α : Type} {act : Action α} {w : World} {path : LocalPath}
    {e : Failure} (h : act w = (.error e, w)) :
    consuming path act w = (.error e, w.taking (some path)) := by
  rw [consuming, Action.ensuring, h]
  rfl

namespace Ask

variable {a : Ask} {e : BadReference} {w : World}

theorem refused_handing (source : Source) (h : a.Refused e) : (a.handing source).Refused e := by
  rcases a with ⟨c, r⟩ | ⟨f, r⟩ <;> cases r <;> exact h

/-- What is refused as it is leaves everything alone, but takes the file that is handed over. -/
theorem perform_of_refused (h : a.Refused e) (w : World) :
    a.perform w = (.error (.badReference e), w.taking a.handed?) := by
  cases a with
  | client c r =>
    cases r with
    | contains given | read given | attributes given | remove given | putAt source given
    | put source name =>
      exact Action.map_of_error _ (Action.guarded_bind_of_error _ w h)
    | removeExecution => exact h.elim
    | putLocal path name =>
      refine Action.map_of_error _ (Client.consuming_of_error ?_)
      rcases h with hname | ⟨n, hname, hplace⟩
      · exact Action.guarded_bind_of_error _ w hname
      · exact (Action.guarded_bind_of_ok _ w hname).trans
          (Action.guarded_bind_of_error _ w hplace)
    | readCache cacheId objectId ttl | removeCache cacheId objectId =>
      exact Action.map_of_error _
        (Action.guarded_bind_of_error _ w (Context.cacheUri_eq_error h))
    | putCache path cacheId objectId =>
      refine Action.map_of_error _ (Client.consuming_of_error ?_)
      exact Action.guarded_bind_of_error _ w (Context.cacheUri_eq_error h)
    | openFiles space => exact Action.map_of_error _ (Action.guarded_bind_of_error _ w h)
  | files f r =>
    cases r with
    | all path directories | find includes excludes | contains path | read path
    | put path source policy | makeDirectory path | remove path =>
      exact Action.map_of_error _ (Action.guarded_bind_of_error _ w h)

end Ask

/-- Whatever is handed over is looked at first. What is not let in is refused without a call to the
backend or a question to the guard, in any world and with any content alike. The own namespace is
opened without a question, and of another one the guard is asked once, before anything else. -/
theorem looked_at_first :
    (∀ (a : Ask) (e : BadReference), a.Refused e → ∀ w : World,
      a.perform w = (.error (.badReference e), w.taking a.handed?)) ∧
    (∀ (a : Ask) (e : BadReference), a.Refused e → ∀ (source : Source) (v w : World),
      ((a.handing source).perform v).1 = (a.perform w).1) ∧
    ∀ (c : Client) (space : String) (n : Namespace) (w : World), Namespace.read space = .ok n →
      let target : Area := ⟨c.context.tenant, n⟩
      (n = c.context.space → c.openFiles space w = (.ok ⟨target⟩, w)) ∧
      (n ≠ c.context.space → c.openFiles space w =
        (if c.guard.admits target c.area then .ok ⟨target⟩
          else .error (.accessDenied target.text c.area.text),
        { w with checks := w.checks ++ [⟨target, c.area⟩] })) := by
  refine ⟨fun a e h w => Ask.perform_of_refused h w, ?_, ?_⟩
  · intro a e h source v w
    rw [Ask.perform_of_refused (Ask.refused_handing source h), Ask.perform_of_refused h]
  · intro c space n w hn target
    rw [Client.openFiles_apply, hn]
    constructor
    · intro hown
      exact if_pos hown
    · intro hother
      dsimp only
      rw [if_neg hother, AccessGuard.check]
      split <;> rfl

/-- A name that leads up is refused, however broken the content is, and a namespace that is closed
to the client is asked for once. -/
theorem looked_at_first_of_parent :
    let source : Source := ⟨.empty, some (.backend (.stated "broken"))⟩
    let put := Ask.client .daily (.put source "../report.csv")
    let w := World.start .noon2024
    let secret : Namespace := ⟨"secret", by decide⟩
    put.perform w = (.error (.badReference (.nameForm "../report.csv")), w) ∧
      Client.daily.openFiles "secret" w = (.error (.accessDenied "secret" "open"),
        { w with checks := [⟨⟨none, secret⟩, Client.daily.area⟩] }) := by
  intro source put w secret
  have hname : put.Refused (.nameForm "../report.csv") := by
    show Client.daily.context.baseUri.resolve "../report.csv" = _
    decide +kernel
  obtain ⟨hrefused, -, hopened⟩ := looked_at_first
  refine ⟨hrefused put _ hname w, ?_⟩
  have hspace : Namespace.read "secret" = .ok secret := by decide
  exact (hopened .daily "secret" secret w hspace).2 (by decide)

end Depot
