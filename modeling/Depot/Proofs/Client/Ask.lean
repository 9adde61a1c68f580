import Depot.Proofs.Client.Invariant
import Depot.Proofs.Layout.Named

/-!
# Whoever asks whatever

A store is shared by any number of clients, and so are the files of a namespace. An `Ask` is a
request together with the one that it is made to. `World.after` is what asks and other events one
after the other lead to, whoever they come from.

What is asked for writes to one reference at most (`Ask.WritesTo`), and unless the reference is
given as such, it is named (`Ask.isNamed_of_writesTo`). An invariant of the store that all such
writes and all removals keep is kept by every event (`World.after_keeps`).
-/

namespace Depot

open Depot.Action (Keeps)

/-- A request to a client, or to the files of a namespace. -/
inductive Ask where
  | client (c : Client) (r : Client.Request)
  | files (f : NamespaceFiles) (r : NamespaceFiles.Request)

namespace Ask

/-- What is done when something is asked for. -/
def perform : Ask → Action Answer
  | client c r => r.perform c
  | files f r => r.perform f

/-- The area that is acted in. -/
def area : Ask → Area
  | client c _ => c.area
  | files f _ => f.area

end Ask

/-! ## Where requests write -/

/-- The name that a local file is handed over under. -/
def Client.handedName (path : LocalPath) (name : Option String) : Except BadReference String :=
  match name with
  | some name => .ok name
  | none => localName path

/-- A request to a client writes a file at a reference, if it gets that far. -/
def Client.Request.WritesTo (c : Client) (u : Uri) : Client.Request → Prop
  | .putAt _ given => Uri.letIn given = .ok u
  | .put _ name => c.context.baseUri.resolve name = .ok u
  | .putLocal path name => ∃ n, handedName path name = .ok n ∧ c.context.baseUri.resolve n = .ok u
  | .putCache _ cacheId objectId => c.context.cacheUri cacheId objectId = .ok u
  | _ => False

/-- A request to the files of a namespace writes a file, or marks a directory, at a reference. -/
def NamespaceFiles.Request.WritesTo (f : NamespaceFiles) (u : Uri) : Request → Prop
  | .put path _ _ => f.uriOf path = .ok u
  | .makeDirectory path => f.uriOf path = .ok u
  | _ => False

namespace Ask

/-- What is asked for writes at a reference. -/
def WritesTo (u : Uri) : Ask → Prop
  | client c r => r.WritesTo c u
  | files f r => r.WritesTo f u

variable {a : Ask} {u : Uri}

/-- A reference is written to because it was given, or it is named. -/
theorem isNamed_of_writesTo (h : a.WritesTo u) :
    (∃ c source given, a = .client c (.putAt source given)) ∨ u.IsNamed := by
  cases a with
  | client c r =>
    cases r with
    | putAt source given => exact Or.inl ⟨c, source, given, rfl⟩
    | put source name => exact Or.inr (Context.isNamed_of_resolve h)
    | putLocal path name =>
      obtain ⟨n, -, hu⟩ := h
      exact Or.inr (Context.isNamed_of_resolve hu)
    | putCache path cacheId objectId => exact Or.inr (Context.isNamed_of_cacheUri h)
    | _ => exact h.elim
  | files f r =>
    cases r with
    | put path source policy => exact Or.inr (NamespaceFiles.isNamed_of_uriOf h)
    | makeDirectory path => exact Or.inr (NamespaceFiles.isNamed_of_uriOf h)
    | _ => exact h.elim

/-- A reference is written to because it was given, or because names lead there. -/
theorem exists_way_of_writesTo (h : a.WritesTo u) :
    (∃ c source given, a = .client c (.putAt source given)) ∨
      ∃ names, (∀ name ∈ names, IsPart name) ∧ u = .ofNames names := by
  refine (isNamed_of_writesTo h).imp_right ?_
  rintro ⟨names, hnames, rfl⟩
  exact ⟨names, fun name hname => (hnames name hname).1, rfl⟩

/-! ## What every request keeps -/

variable {inv : Store → Prop}

theorem keeps (a : Ask)
    (hfile : ∀ u, a.WritesTo u → ∀ s now content o, inv s →
      Store.writtenOver now u content (s.find? a.area u) = .ok o → inv (s.insert a.area u o))
    (hmark : ∀ u, a.WritesTo u → ∀ s now, inv s → s.find? a.area u = none →
      inv (s.insert a.area u ⟨.empty, .directory, now, now⟩))
    (hremove : ∀ u s, inv s → inv (s.remove a.area u).2)
    (hprune : ∀ u s, inv s → inv (s.prune a.area u)) :
    Keeps inv a.perform := by
  cases a with
  | client c r =>
    cases r with
    | contains given => exact .map (.guarded_bind fun _ _ => .contains) _
    | read given => exact .map (.guarded_bind fun _ _ => .read) _
    | attributes given => exact .map (.guarded_bind fun _ _ => .attributes) _
    | remove given => exact .map (.guarded_bind fun u _ => .remove (hremove u)) _
    | removeExecution => exact .map (.removeUnder (hprune _)) _
    | putAt source given =>
      exact .map (.guarded_bind fun u hu => Client.keeps_writeAt (hfile u hu)) _
    | put source name =>
      exact .map (.guarded_bind fun u hu => Client.keeps_writeAt (hfile u hu)) _
    | putLocal path name =>
      exact .map (Client.keeps_consuming (.guarded_bind fun n hn => .guarded_bind fun u hu =>
        .bind (Client.keeps_readLocal path) fun _ =>
          Client.keeps_writeAt (hfile u ⟨n, hn, hu⟩))) _
    | readCache cacheId objectId ttl => exact .map (Client.keeps_readCache fun u _ => hremove u) _
    | putCache path cacheId objectId => exact .map (Client.keeps_putCache hfile) _
    | removeCache cacheId objectId => exact .map (Client.keeps_removeCache fun u _ => hremove u) _
    | openFiles space => exact .map (Client.keeps_openFiles space) _
  | files f r =>
    cases r with
    | all path directories => exact .map NamespaceFiles.keeps_all _
    | find includes excludes =>
      exact .map (.guarded_bind fun _ _ => .bind NamespaceFiles.keeps_all fun _ => .pure _) _
    | contains path => exact .map (.guarded_bind fun _ _ => .contains) _
    | read path => exact .map (.guarded_bind fun _ _ => .read) _
    | put path source policy => exact .map (NamespaceFiles.keeps_put hfile) _
    | makeDirectory path =>
      exact .map (.guarded_bind fun u hu => .bind (.makeDirectory (hmark u hu)) fun _ =>
        .pure _) _
    | remove path => exact .map (.guarded_bind fun u _ => .remove (hremove u)) _

end Ask

/-! ## Keys that have a property -/

namespace Store

variable {p : Key → Prop} {s : Store} {area : Area} {uri : Uri}

/-- All keys that hold an object have a property. -/
def AllKeys (p : Key → Prop) (s : Store) : Prop :=
  ∀ k, s.objects[k]? ≠ none → p k

theorem AllKeys.of_find? (hs : AllKeys p s) {o : Object} (ho : s.find? area uri = some o) :
    p ⟨area, uri⟩ :=
  hs ⟨area, uri⟩ (by rw [← find?_eq, ho]; exact Option.some_ne_none o)

theorem allKeys_empty : AllKeys p .empty :=
  fun _ hk => absurd rfl hk

theorem allKeys_insert (hs : AllKeys p s) (hp : p ⟨area, uri⟩) (o : Object) :
    AllKeys p (s.insert area uri o) := by
  intro k hk
  rw [getElem?_insert] at hk
  split at hk
  · next h => exact h ▸ hp
  · exact hs k hk

theorem allKeys_remove (hs : AllKeys p s) (area : Area) (uri : Uri) :
    AllKeys p (s.remove area uri).2 := by
  intro k hk
  rw [getElem?_remove] at hk
  split at hk
  · exact absurd rfl hk
  · exact hs k hk

theorem allKeys_prune (hs : AllKeys p s) (area : Area) (base : Uri) :
    AllKeys p (s.prune area base) := by
  intro k hk
  rw [getElem?_prune] at hk
  split at hk
  · exact absurd rfl hk
  · exact hs k hk

end Store

/-- Requests that write only where a property holds keep it for all keys. -/
theorem Ask.keeps_allKeys {p : Store.Key → Prop} {a : Ask}
    (h : ∀ u, a.WritesTo u → p ⟨a.area, u⟩) : Keeps (Store.AllKeys p) a.perform :=
  a.keeps (fun u hu _ _ _ o hs _ => Store.allKeys_insert hs (h u hu) o)
    (fun u hu _ _ hs _ => Store.allKeys_insert hs (h u hu) _)
    (fun u _ hs => Store.allKeys_remove hs _ u) (fun u _ hs => Store.allKeys_prune hs _ u)

/-! ## Events -/

/-- What happens in a world. -/
inductive World.Event where
  | ask (a : Ask)
  | setClock (time : Instant)
  | setWall (time : Instant)
  | place (path : LocalPath) (entry : LocalEntry)

namespace World

/-- The world after an event. -/
def meet (w : World) : Event → World
  | .ask a => (a.perform w).2
  | .setClock time => { w with clock := time }
  | .setWall time => { w with wall := time }
  | .place path entry => { w with disk := w.disk.put path entry }

/-- The world after events one after the other. -/
def after (w : World) (events : List Event) : World :=
  events.foldl meet w

variable {inv : Store → Prop} {w : World}

theorem meet_keeps (event : Event) (h : ∀ a, event = .ask a → Keeps inv a.perform)
    (hw : inv w.store) : inv (w.meet event).store := by
  cases event with
  | ask a => exact h a rfl w hw
  | setClock time => exact hw
  | setWall time => exact hw
  | place path entry => exact hw

/-- What every request keeps is kept by everything that happens. -/
theorem after_keeps (events : List Event) (h : ∀ a, .ask a ∈ events → Keeps inv a.perform)
    (hw : inv w.store) : inv (w.after events).store := by
  induction events generalizing w with
  | nil => exact hw
  | cons event events ih =>
    refine ih (fun a ha => h a (List.mem_cons_of_mem _ ha)) ?_
    exact meet_keeps event (fun a ha => h a (ha ▸ List.mem_cons_self)) hw

/-- What holds wherever requests write holds of all keys that come about. -/
theorem allKeys_after {p : Store.Key → Prop} {events : List Event} (hw : w.store = .empty)
    (h : ∀ a u, .ask a ∈ events → a.WritesTo u → p ⟨a.area, u⟩) :
    (w.after events).store.AllKeys p := by
  refine after_keeps events (fun a ha => a.keeps_allKeys fun u hu => h a u ha hu) ?_
  rw [hw]
  exact Store.allKeys_empty

end World

end Depot
