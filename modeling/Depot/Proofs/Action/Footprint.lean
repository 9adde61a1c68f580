import Depot.World
import Depot.Proofs.Except
import Depot.Proofs.Store.Lookup

/-!
# Footprints of actions

The footprint of an action is a set of keys that it looks at and a set of keys that it may change.
Whatever the action answers, and whether it fails or not,

* no object changes but under a key of the second set (`Footprint.frame`), and
* worlds that differ in the other objects and in the count of served calls only make the action
  answer the same, and still differ in nothing else afterwards (`Footprint.blind`).

Footprints are closed under everything that actions are put together from, so that the footprint
of an operation is read off its text (`Footprint.bind`, `Footprint.attempt`, …). The section on
the store has the footprints of its operations: a removal looks at one key and may change a branch,
a listing looks at a branch and changes nothing.
-/

namespace Depot

/-- Two worlds are the same but for the objects under other keys, and the number of calls that the
store has served. -/
structure World.AgreesOn (keys : Store.Key → Prop) (v w : World) : Prop where
  clock : v.clock = w.clock
  wall : v.wall = w.wall
  faults : v.faults = w.faults
  checks : v.checks = w.checks
  disk : v.disk = w.disk
  objects : v.store.AgreesOn keys w.store

namespace Action

variable {α β : Type}

/-! ## Running actions -/

theorem pure_apply (a : α) (w : World) : (pure a : Action α) w = (.ok a, w) :=
  rfl

theorem bind_apply (act : Action α) (f : α → Action β) (w : World) :
    (act >>= f) w = match act w with
      | (.ok a, v) => f a v
      | (.error e, v) => (.error e, v) := by
  show ExceptT.bind act f w = _
  simp only [ExceptT.bind, ExceptT.mk, bind, StateT.bind]
  rcases act w with ⟨_ | _, v⟩ <;> rfl

/-- An answer that is passed on as one of another kind. -/
theorem map_apply (g : α → β) (act : Action α) (w : World) :
    (g <$> act) w = ((act w).1.map g, (act w).2) := by
  show (act >>= fun a => pure (g a)) w = _
  rw [bind_apply]
  rcases act w with ⟨_ | _, v⟩ <;> rfl

theorem guarded_bind_apply (r : Except BadReference α) (f : α → Action β) (w : World) :
    (guarded r >>= f) w = match r with
      | .ok a => f a w
      | .error e => (.error (.badReference e), w) := by
  cases r <;> rfl

theorem guarded_bind_of_ok {r : Except BadReference α} {a : α} (f : α → Action β) (w : World)
    (h : r = .ok a) : (guarded r >>= f) w = f a w := by
  rw [guarded_bind_apply, h]

/-- An action that goes on with what is let in has done nothing when it refuses. -/
theorem guarded_bind_of_error {r : Except BadReference α} {e : BadReference} (f : α → Action β)
    (w : World) (h : r = .error e) : (guarded r >>= f) w = (.error (.badReference e), w) := by
  rw [guarded_bind_apply, h]

/-- What is true of the store, and stays true of it if a reference is let in, is true in the end. -/
theorem guarded_bind_store {p : Store → Prop} {r : Except BadReference α} {f : α → Action β}
    {w : World} (hw : p w.store) (hf : ∀ a, r = .ok a → p (f a w).2.store) :
    p ((guarded r >>= f) w).2.store := by
  cases r with
  | error e => exact hw
  | ok a => exact hf a rfl

/-! ## Footprints -/

/-- An action looks at the keys of `reads` only, and changes objects under those of `writes`
only. -/
structure Footprint (reads writes : Store.Key → Prop) (act : Action α) : Prop where
  frame : ∀ w k, ¬writes k → (act w).2.store.objects[k]? = w.store.objects[k]?
  blind : ∀ v w, v.AgreesOn reads w →
    (act v).1 = (act w).1 ∧ (act v).2.AgreesOn reads (act w).2

namespace Footprint

variable {reads writes : Store.Key → Prop}

theorem pure (a : α) : Footprint reads writes (pure a : Action α) where
  frame _ _ _ := rfl
  blind _ _ h := ⟨rfl, h⟩

theorem throw (e : Failure) : Footprint reads writes (throw e : Action α) where
  frame _ _ _ := rfl
  blind _ _ h := ⟨rfl, h⟩

/-- A failure that says that nothing is there has an answer of its own. -/
theorem unless_absent {e : Failure} (a : α) :
    Footprint reads writes (if e.isAbsent = true then Pure.pure a else MonadExcept.throw e) := by
  split
  · exact pure a
  · exact throw e

theorem ofExcept (r : Except Failure α) : Footprint reads writes (Action.ofExcept r) where
  frame _ _ _ := rfl
  blind _ _ h := ⟨rfl, h⟩

theorem observe {f : World → α} (hf : ∀ v w, v.AgreesOn reads w → f v = f w) :
    Footprint reads writes (Action.observe f) where
  frame _ _ _ := rfl
  blind v w h := ⟨congrArg Except.ok (hf v w h), h⟩

/-- A step is taken in the world that the step before it leaves. -/
theorem bind {act : Action α} {f : α → Action β} (ha : Footprint reads writes act)
    (hf : ∀ a, Footprint reads writes (f a)) : Footprint reads writes (act >>= f) where
  frame w k hk := by
    have hw := ha.frame w k hk
    rw [bind_apply]
    rcases hr : act w with ⟨_ | a, v⟩
    · rw [hr] at hw; exact hw
    · rw [hr] at hw; exact ((hf a).frame v k hk).trans hw
  blind v w h := by
    obtain ⟨hr, hs⟩ := ha.blind v w h
    rw [bind_apply, bind_apply]
    rcases hv : act v with ⟨r, v'⟩
    rcases hw : act w with ⟨s, w'⟩
    rw [hv, hw] at hr hs
    -- Both runs have come to the same answer, so that they go on with the same action.
    have hrs : r = s := hr
    subst hrs
    cases r with
    | error e => exact ⟨rfl, hs⟩
    | ok a => exact (hf a).blind v' w' hs

/-- What follows on a failure never happens. -/
theorem throw_bind (e : Failure) (f : α → Action β) :
    Footprint reads writes ((MonadExcept.throw e : Action α) >>= f) where
  frame _ _ _ := rfl
  blind _ _ h := ⟨rfl, h⟩

/-- What follows on a reference that is let in matters only if one is. -/
theorem guarded_bind {r : Except BadReference α} {f : α → Action β}
    (hf : ∀ a, r = .ok a → Footprint reads writes (f a)) :
    Footprint reads writes (Action.guarded r >>= f) := by
  cases r with
  | error e => exact ⟨fun _ _ _ => rfl, fun _ _ h => ⟨rfl, h⟩⟩
  | ok a => exact hf a rfl

theorem guarded (r : Except BadReference α) : Footprint reads writes (Action.guarded r) :=
  ofExcept _

theorem attempt {act : Action α} (ha : Footprint reads writes act) :
    Footprint reads writes act.attempt where
  frame w k hk := ha.frame w k hk
  blind v w h := by
    obtain ⟨hr, hs⟩ := ha.blind v w h
    exact ⟨congrArg Except.ok hr, hs⟩

theorem ensuring {act : Action α} {last : World → World} (ha : Footprint reads writes act)
    (hl : ∀ w, (last w).store = w.store)
    (hb : ∀ v w, v.AgreesOn reads w → (last v).AgreesOn reads (last w)) :
    Footprint reads writes (act.ensuring last) where
  frame w k hk := by
    show (last (act w).2).store.objects[k]? = _
    rw [hl]
    exact ha.frame w k hk
  blind v w h := by
    obtain ⟨hr, hs⟩ := ha.blind v w h
    exact ⟨hr, hb _ _ hs⟩

theorem change {f : World → World} (hf : ∀ w, (f w).store = w.store)
    (hb : ∀ v w, v.AgreesOn reads w → (f v).AgreesOn reads (f w)) :
    Footprint reads writes (Action.change f) where
  frame w k _ := by
    show (f w).store.objects[k]? = _
    rw [hf]
  blind v w h := ⟨rfl, hb v w h⟩

theorem map {act : Action α} (ha : Footprint reads writes act) (f : α → β) :
    Footprint reads writes (f <$> act) :=
  bind ha fun a => pure (f a)

/-! ## Operations of the store -/

/-- A call has a footprint if what it does to the store has it. -/
theorem serve {op : World → Except Failure (α × Store)}
    (hf : ∀ w a s, op w = .ok (a, s) →
      ∀ k, ¬writes k → s.objects[k]? = w.store.objects[k]?)
    (ha : ∀ v w, v.AgreesOn reads w → (op v).map Prod.fst = (op w).map Prod.fst)
    (hs : ∀ v w, v.AgreesOn reads w → ∀ a s b t, op v = .ok (a, s) → op w = .ok (b, t) →
      s.AgreesOn reads t) :
    Footprint reads writes (Vault.serve op) where
  frame w k hk := by
    simp only [Vault.serve]
    rcases hr : op { w with served := w.served + 1 } with e | ⟨a, s⟩
    · rfl
    · exact hf _ a s hr k hk
  blind v w h := by
    -- The counts of served calls may differ before the call and after it.
    have hc : World.AgreesOn reads { v with served := v.served + 1 }
        { w with served := w.served + 1 } :=
      ⟨h.clock, h.wall, h.faults, h.checks, h.disk, h.objects⟩
    have hfst := ha _ _ hc
    have hsnd := hs _ _ hc
    simp only [Vault.serve]
    rcases hv : op { v with served := v.served + 1 } with e | ⟨a, s⟩ <;>
      rcases hw : op { w with served := w.served + 1 } with e' | ⟨b, t⟩ <;>
      simp only [hv, hw, Except.map, Except.ok.injEq, Except.error.injEq, reduceCtorEq] at hfst
    · exact ⟨congrArg Except.error hfst, hc⟩
    · have hst := hsnd a s b t hv hw
      exact ⟨congrArg Except.ok hfst, h.clock, h.wall, h.faults, h.checks, h.disk, hst⟩

/-- A call that only looks has no footprint but what it looks at. -/
theorem look {op : Store → Except Failure α}
    (hop : ∀ s t, Store.AgreesOn reads s t → op s = op t) :
    Footprint reads writes (Vault.look op) := by
  apply serve
  · intro w a s h k _
    cases hr : op w.store with
    | error e => simp [hr, Except.map] at h
    | ok b => simp only [hr, Except.map, Except.ok.injEq, Prod.mk.injEq] at h; rw [h.2]
  · intro v w h
    have := hop _ _ h.objects
    cases hr : op w.store <;> simp [this, hr, Except.map]
  · intro v w h a s b t hv hw
    cases hr : op v.store <;> cases hr' : op w.store <;>
      simp only [hr, hr', Except.map, Except.ok.injEq, Prod.mk.injEq, reduceCtorEq] at hv hw
    rw [← hv.2, ← hw.2]
    exact h.objects

/-- A call that fails at the front looks at no object. -/
theorem front {c : Call} {act : Action α} (ha : Footprint reads writes act) :
    Footprint reads writes (Backend.front c act) where
  frame w k hk := by
    simp only [Backend.front]
    cases w.faults.failing c with
    | none => exact ha.frame w k hk
    | some e => rfl
  blind v w h := by
    simp only [Backend.front, h.faults]
    cases w.faults.failing c with
    | none => exact ha.blind v w h
    | some e => exact ⟨rfl, h⟩

variable {area : Area} {uri base : Uri}

theorem contains (hr : reads ⟨area, uri⟩) :
    Footprint reads writes (Backend.contains area uri) := by
  apply front
  apply look
  intro s t h
  simp only [Store.contains, Store.find?_eq, h _ hr]

theorem read (hr : reads ⟨area, uri⟩) : Footprint reads writes (Backend.read area uri) := by
  apply front
  apply look
  intro s t h
  simp only [Store.read, Store.find?_eq, h _ hr]

theorem attributes (hr : reads ⟨area, uri⟩) :
    Footprint reads writes (Backend.attributes area uri) := by
  apply front
  apply look
  intro s t h
  simp only [Store.attributes, Store.find?_eq, h _ hr]

theorem list (hr : ∀ k, k.isUnder area base = true → reads k) :
    Footprint reads writes (Backend.list area base) := by
  apply front
  refine bind (look fun s t h => ?_) fun entries => bind (observe fun v w h => ?_) fun extra => ?_
  · rw [Store.list_congr fun k hk => h k (hr k hk)]
  · rw [h.faults]
  · cases extra with
    | none => exact pure _
    | some uri => exact pure _

theorem write {content : ByteArray} (hr : reads ⟨area, uri⟩) (hw : writes ⟨area, uri⟩) :
    Footprint reads writes (Backend.write area uri content) := by
  apply front
  refine bind (serve ?_ ?_ ?_) fun written => bind (observe fun v w h => ?_) fun answer => pure _
  · intro w a s h k hk
    have hne : k ≠ ⟨area, uri⟩ := fun e => hk (e ▸ hw)
    rw [Store.write_eq] at h
    cases ho : Store.writtenOver w.clock.millis uri content (w.store.find? area uri) with
    | error e => simp [ho, Except.map] at h
    | ok o =>
      simp only [ho, Except.map, Except.ok.injEq, Prod.mk.injEq] at h
      rw [← h.2, Store.getElem?_insert, if_neg hne]
  · intro v w h
    simp only [Store.write_eq, Store.find?_eq, h.objects _ hr, h.clock]
    cases Store.writtenOver w.clock.millis uri content w.store.objects[(⟨area, uri⟩ : Store.Key)]?
      <;> rfl
  · intro v w h a s b t hv hw
    simp only [Store.write_eq, Store.find?_eq, h.objects _ hr, h.clock] at hv hw
    cases ho : Store.writtenOver w.clock.millis uri content
        w.store.objects[(⟨area, uri⟩ : Store.Key)]? with
    | error e => simp [ho, Except.map] at hv
    | ok o =>
      simp only [ho, Except.map, Except.ok.injEq, Prod.mk.injEq] at hv hw
      intro k hk
      rw [← hv.2, ← hw.2, Store.getElem?_insert, Store.getElem?_insert, h.objects k hk]
  · rw [h.faults]

theorem makeDirectory (hr : reads ⟨area, uri⟩) (hw : writes ⟨area, uri⟩) :
    Footprint reads writes (Backend.makeDirectory area uri) := by
  apply front
  apply serve
  · intro w a s h k hk
    have hne : k ≠ ⟨area, uri⟩ := fun e => hk (e ▸ hw)
    rw [Store.makeDirectory_eq] at h
    cases ho : Store.madeOver uri (w.store.find? area uri) with
    | error e => simp [ho, Except.map] at h
    | ok new =>
      simp only [ho, Except.map, Except.ok.injEq, Prod.mk.injEq] at h
      rw [← h.2]
      cases new with
      | false => rfl
      | true => rw [if_pos rfl, Store.getElem?_insert, if_neg hne]
  · intro v w h
    simp only [Store.makeDirectory_eq, Store.find?_eq, h.objects _ hr]
    cases Store.madeOver uri w.store.objects[(⟨area, uri⟩ : Store.Key)]? <;> rfl
  · intro v w h a s b t hv hw
    simp only [Store.makeDirectory_eq, Store.find?_eq, h.objects _ hr, h.clock] at hv hw
    cases ho : Store.madeOver uri w.store.objects[(⟨area, uri⟩ : Store.Key)]? with
    | error e => simp [ho, Except.map] at hv
    | ok new =>
      simp only [ho, Except.map, Except.ok.injEq, Prod.mk.injEq] at hv hw
      intro k hk
      rw [← hv.2, ← hw.2]
      cases new with
      | false => exact h.objects k hk
      | true => rw [if_pos rfl, if_pos rfl, Store.getElem?_insert, Store.getElem?_insert,
          h.objects k hk]

/-- A removal looks at one key, but it may take the branch that starts there. -/
theorem remove (hr : reads ⟨area, uri⟩) (hw : ∀ k, k.isUnder area uri = true → writes k) :
    Footprint reads writes (Backend.remove area uri) := by
  apply front
  apply serve
  · intro w a s h k hk
    have hne : k ≠ ⟨area, uri⟩ := fun e => hk (hw k (e ▸ Store.isUnder_self _))
    have hns : ¬k.isUnder area uri = true := fun e => hk (hw k e)
    have hs : (w.store.remove area uri).2 = s := congrArg Prod.snd (Except.ok.inj h)
    rw [← hs, Store.getElem?_remove, if_neg]
    rintro (e | ⟨_, e⟩)
    · exact hne e
    · exact hns e
  · intro v w h
    simp only [Store.remove_eq, Store.contains, Store.find?_eq, h.objects _ hr]
    rfl
  · intro v w h a s b t hv hw
    have hs : (v.store.remove area uri).2 = s := congrArg Prod.snd (Except.ok.inj hv)
    have ht : (w.store.remove area uri).2 = t := congrArg Prod.snd (Except.ok.inj hw)
    -- What is at the key decides in both worlds whether the branch goes with it.
    have hd : v.store.holdsDirectory ⟨area, uri⟩ = w.store.holdsDirectory ⟨area, uri⟩ := by
      simp only [Store.holdsDirectory, h.objects _ hr]
    intro k hk
    rw [← hs, ← ht, Store.getElem?_remove, Store.getElem?_remove, h.objects k hk, hd]

theorem removeUnder (hr : ∀ k, k.isUnder area base = true → reads k)
    (hw : ∀ k, k.isUnder area base = true → writes k) :
    Footprint reads writes (Backend.removeUnder area base) := by
  apply front
  apply serve
  · intro w a s h k hk
    have hns : ¬k.isUnder area base = true := fun e => hk (hw k e)
    have hs : w.store.prune area base = s := congrArg Prod.snd (Except.ok.inj h)
    rw [← hs, Store.getElem?_prune, if_neg hns]
  · intro v w h
    have hk : v.store.keysUnder area base = w.store.keysUnder area base :=
      Store.keysUnder_congr fun k hk => h.objects k (hr k hk)
    simp only [Store.removeUnder, hk]
    rfl
  · intro v w h a s b t hv hw
    have hs : v.store.prune area base = s := congrArg Prod.snd (Except.ok.inj hv)
    have ht : w.store.prune area base = t := congrArg Prod.snd (Except.ok.inj hw)
    intro k hk
    rw [← hs, ← ht, Store.getElem?_prune, Store.getElem?_prune, h.objects k hk]

end Footprint

end Action

end Depot
