import Depot.Proofs.Action.Footprint

/-!
# Invariants of actions

An action keeps an invariant of the store if it leads from stores that have it to stores that have
it, whatever it answers. Like footprints, invariants are read off the text of an operation
(`Keeps.bind`, `Keeps.attempt`, …). Where a footprint says which keys an operation may ever change,
an invariant can speak of what is stored: a removal, say, takes a whole branch only from stores
where the mark of a directory is at its start.
-/

namespace Depot.Action

variable {α β : Type} {inv : Store → Prop}

/-- An action leads from stores with a property to stores with it. -/
def Keeps (inv : Store → Prop) (act : Action α) : Prop :=
  ∀ w, inv w.store → inv (act w).2.store

namespace Keeps

theorem pure (a : α) : Keeps inv (pure a : Action α) :=
  fun _ h => h

theorem throw (e : Failure) : Keeps inv (throw e : Action α) :=
  fun _ h => h

theorem unless_absent {e : Failure} (a : α) :
    Keeps inv (if e.isAbsent = true then Pure.pure a else MonadExcept.throw e) := by
  split
  · exact pure a
  · exact throw e

theorem ofExcept (r : Except Failure α) : Keeps inv (Action.ofExcept r) :=
  fun _ h => h

theorem observe (f : World → α) : Keeps inv (Action.observe f) :=
  fun _ h => h

theorem bind {act : Action α} {f : α → Action β} (ha : Keeps inv act)
    (hf : ∀ a, Keeps inv (f a)) : Keeps inv (act >>= f) := by
  intro w h
  have hw := ha w h
  rw [bind_apply]
  rcases hr : act w with ⟨_ | a, v⟩
  · rw [hr] at hw; exact hw
  · rw [hr] at hw; exact hf a v hw

theorem map {act : Action α} (ha : Keeps inv act) (f : α → β) : Keeps inv (f <$> act) :=
  bind ha fun a => pure (f a)

theorem guarded_bind {r : Except BadReference α} {f : α → Action β}
    (hf : ∀ a, r = .ok a → Keeps inv (f a)) : Keeps inv (Action.guarded r >>= f) := by
  cases r with
  | error e => exact fun _ h => h
  | ok a => exact hf a rfl

theorem attempt {act : Action α} (ha : Keeps inv act) : Keeps inv act.attempt :=
  ha

theorem ensuring {act : Action α} {last : World → World} (ha : Keeps inv act)
    (hl : ∀ w, (last w).store = w.store) : Keeps inv (act.ensuring last) := by
  intro w h
  show inv (last (act w).2).store
  rw [hl]
  exact ha w h

theorem change {f : World → World} (hf : ∀ w, (f w).store = w.store) :
    Keeps inv (Action.change f) := by
  intro w h
  show inv (f w).store
  rw [hf]
  exact h

theorem throw_bind (e : Failure) (f : α → Action β) :
    Keeps inv ((MonadExcept.throw e : Action α) >>= f) :=
  fun _ h => h

theorem guarded (r : Except BadReference α) : Keeps inv (Action.guarded r) :=
  ofExcept _

/-! ## Operations of the store -/

theorem serve {op : World → Except Failure (α × Store)}
    (hop : ∀ w a s, inv w.store → op w = .ok (a, s) → inv s) : Keeps inv (Vault.serve op) := by
  intro w h
  simp only [Vault.serve]
  rcases hr : op { w with served := w.served + 1 } with e | ⟨a, s⟩
  · exact h
  · exact hop { w with served := w.served + 1 } a s h hr

theorem look (op : Store → Except Failure α) : Keeps inv (Vault.look op) := by
  apply serve
  intro w a s h hr
  cases ho : op w.store with
  | error e => simp [ho, Except.map] at hr
  | ok b =>
    simp only [ho, Except.map, Except.ok.injEq, Prod.mk.injEq] at hr
    exact hr.2 ▸ h

theorem front {c : Call} {act : Action α} (ha : Keeps inv act) :
    Keeps inv (Backend.front c act) := by
  intro w h
  simp only [Backend.front]
  cases w.faults.failing c with
  | none => exact ha w h
  | some e => exact h

variable {area : Area} {uri : Uri}

theorem contains : Keeps inv (Backend.contains area uri) :=
  front (look _)

theorem read : Keeps inv (Backend.read area uri) :=
  front (look _)

theorem attributes : Keeps inv (Backend.attributes area uri) :=
  front (look _)

theorem list : Keeps inv (Backend.list area uri) := by
  refine front (bind (look _) fun entries => bind (observe _) fun extra => ?_)
  cases extra with
  | none => exact pure _
  | some uri => exact pure _

/-- A write matters to an invariant only where it puts a file. -/
theorem write {content : ByteArray}
    (hw : ∀ s now o, inv s → Store.writtenOver now uri content (s.find? area uri) = .ok o →
      inv (s.insert area uri o)) :
    Keeps inv (Backend.write area uri content) := by
  refine front (bind (serve ?_) fun _ => bind (observe _) fun _ => pure _)
  intro w a s h hr
  rw [Store.write_eq] at hr
  cases ho : Store.writtenOver w.clock.millis uri content (w.store.find? area uri) with
  | error e => simp [ho, Except.map] at hr
  | ok o =>
    simp only [ho, Except.map, Except.ok.injEq, Prod.mk.injEq] at hr
    exact hr.2 ▸ hw _ _ o h ho

theorem remove (hr : ∀ s, inv s → inv (s.remove area uri).2) :
    Keeps inv (Backend.remove area uri) := by
  refine front (serve fun w a s h ho => ?_)
  have hs : (w.store.remove area uri).2 = s := congrArg Prod.snd (Except.ok.inj ho)
  exact hs ▸ hr _ h

/-- The making of a directory matters only where it puts a mark. -/
theorem makeDirectory
    (hm : ∀ s now, inv s → s.find? area uri = none →
      inv (s.insert area uri ⟨.empty, .directory, now, now⟩)) :
    Keeps inv (Backend.makeDirectory area uri) := by
  refine front (serve fun w a s h ho => ?_)
  rw [Store.makeDirectory_eq] at ho
  cases hfound : w.store.find? area uri with
  | none =>
    simp only [hfound, Store.madeOver, Except.map, Except.ok.injEq, Prod.mk.injEq, if_true] at ho
    exact ho.2 ▸ hm _ _ h hfound
  | some o =>
    cases hk : o.kind with
    | file => simp [hfound, Store.madeOver, hk, Except.map] at ho
    | directory =>
      simp only [hfound, Store.madeOver, hk, Except.map, Except.ok.injEq, Prod.mk.injEq,
        Bool.false_eq_true, if_false] at ho
      exact ho.2 ▸ h

theorem removeUnder (hp : ∀ s, inv s → inv (s.prune area uri)) :
    Keeps inv (Backend.removeUnder area uri) := by
  refine front (serve fun w a s h ho => ?_)
  have hs : w.store.prune area uri = s := congrArg Prod.snd (Except.ok.inj ho)
  exact hs ▸ hp _ h

end Keeps

end Depot.Action
