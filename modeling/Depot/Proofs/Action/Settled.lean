import Depot.Proofs.Action.Calls

/-!
# All or nothing

An action settles on a property of its answer if it answers with that property, or fails and leaves
all objects as they were (`Action.Settles`). What it does before its last step can only be to look,
or it could fail with half of it done: looking (`Action.Looks`) and settling are closed under what
actions are put together from, as long as at most one step changes the store and nothing that comes
after that step fails.

Calls may be made to fail at the front. What a write answers must not have been tampered with: an
action that checks the answer of a write would fail with the write done.
-/

namespace Depot.Action

variable {α β : Type}

/-! ## Looking -/

/-- Whatever comes of a look, the world is the same but for what is counted, and what guards have
been asked. -/
def Looks (act : Action α) : Prop :=
  ∀ w, ∃ served checks, (act w).2 = { w with served, checks }

namespace Looks

theorem store_eq {act : Action α} (h : Looks act) (w : World) : (act w).2.store = w.store := by
  obtain ⟨served, checks, hw⟩ := h w
  rw [hw]

theorem faults_eq {act : Action α} (h : Looks act) (w : World) :
    (act w).2.faults = w.faults := by
  obtain ⟨served, checks, hw⟩ := h w
  rw [hw]

theorem ofExcept (r : Except Failure α) : Looks (Action.ofExcept r) :=
  fun w => ⟨w.served, w.checks, rfl⟩

theorem pure (a : α) : Looks (pure a : Action α) :=
  ofExcept (.ok a)

theorem throw (e : Failure) : Looks (throw e : Action α) :=
  ofExcept (.error e)

theorem unless_absent {e : Failure} (a : α) :
    Looks (if e.isAbsent = true then Pure.pure a else MonadExcept.throw e) := by
  split
  · exact pure a
  · exact throw e

theorem guarded (r : Except BadReference α) : Looks (Action.guarded r) :=
  ofExcept _

theorem observe (f : World → α) : Looks (Action.observe f) :=
  fun w => ⟨w.served, w.checks, rfl⟩

theorem bind {act : Action α} {f : α → Action β} (ha : Looks act) (hf : ∀ a, Looks (f a)) :
    Looks (act >>= f) := by
  intro w
  obtain ⟨served, checks, hw⟩ := ha w
  rw [bind_apply]
  rcases hr : act w with ⟨_ | a, v⟩
  · rw [hr] at hw
    exact ⟨served, checks, hw⟩
  · rw [hr] at hw
    dsimp only at hw
    obtain ⟨served', checks', hv⟩ := hf a v
    exact ⟨served', checks', by rw [hv, hw]⟩

theorem map {act : Action α} (ha : Looks act) (f : α → β) : Looks (f <$> act) :=
  bind ha fun a => pure (f a)

/-- What is true of the store before a look, and after what comes then, is true in the end. -/
theorem bind_store {p : Store → Prop} {act : Action α} {f : α → Action β} {w : World}
    (ha : Looks act) (hw : p w.store) (hf : ∀ a v, v.store = w.store → p (f a v).2.store) :
    p ((act >>= f) w).2.store := by
  have hstore := ha.store_eq w
  rw [bind_apply]
  rcases hr : act w with ⟨_ | a, v⟩
  · rw [hr] at hstore
    dsimp only at hstore ⊢
    rwa [hstore]
  · rw [hr] at hstore
    exact hf a v hstore

/-- A look at the end changes nothing about what is stored. -/
theorem store_bind {act : Action α} {f : α → Action β} {w : World} (hf : ∀ a, Looks (f a)) :
    ((act >>= f) w).2.store = (act w).2.store := by
  rw [bind_apply]
  rcases act w with ⟨_ | a, v⟩
  · rfl
  · exact (hf a).store_eq v

theorem attempt {act : Action α} (ha : Looks act) : Looks act.attempt :=
  ha

theorem look (op : Store → Except Failure α) : Looks (Vault.look op) := by
  intro w
  rw [Vault.look_apply]
  exact ⟨w.served + 1, w.checks, rfl⟩

theorem front {c : Call} {act : Action α} (ha : Looks act) : Looks (Backend.front c act) := by
  intro w
  cases h : w.faults.failing c with
  | none =>
    rw [Backend.front_of_none h]
    exact ha w
  | some e =>
    rw [Backend.front_of_some h]
    exact ⟨w.served, w.checks, rfl⟩

variable {area : Area} {uri : Uri}

theorem contains : Looks (Backend.contains area uri) :=
  front (look _)

theorem read : Looks (Backend.read area uri) :=
  front (look _)

theorem attributes : Looks (Backend.attributes area uri) :=
  front (look _)

theorem list : Looks (Backend.list area uri) := by
  refine front (bind (look _) fun entries => bind (observe _) fun extra => ?_)
  cases extra with
  | none => exact pure _
  | some uri => exact pure _

end Looks

/-! ## Settling -/

/-- Where writes answer with the place that was written, the action answers as it should, or fails
and leaves all objects as they were. -/
def Settles (p : α → Prop) (act : Action α) : Prop :=
  ∀ w, w.faults.putReturns = none →
    match (act w).1 with
    | .ok a => p a
    | .error _ => (act w).2.store = w.store

namespace Settles

variable {p : α → Prop} {q : β → Prop}

theorem of_looks {act : Action α} (h : Looks act) : Settles (fun _ => True) act := by
  intro w _
  split
  · trivial
  · exact h.store_eq w

theorem mono {p' : α → Prop} {act : Action α} (ha : Settles p act) (hp : ∀ a, p a → p' a) :
    Settles p' act := by
  intro w hw
  have hact := ha w hw
  split at hact
  · exact hp _ hact
  · exact hact

theorem ofExcept {r : Except Failure α} (h : ∀ a, r = .ok a → p a) :
    Settles p (Action.ofExcept r) := by
  intro w _
  cases r with
  | ok a => exact h a rfl
  | error e => exact rfl

theorem pure {a : α} (h : p a) : Settles p (Pure.pure a : Action α) :=
  ofExcept fun _ e => Except.ok.inj e ▸ h

theorem throw_bind (e : Failure) (f : α → Action β) :
    Settles q ((MonadExcept.throw e : Action α) >>= f) :=
  fun _ _ => rfl

theorem guarded {r : Except BadReference α} (h : ∀ a, r = .ok a → p a) :
    Settles p (Action.guarded r) := by
  cases r with
  | ok a => exact ofExcept fun b hb => Except.ok.inj hb ▸ h a rfl
  | error e => exact ofExcept nofun

theorem guarded_bind {r : Except BadReference α} {f : α → Action β}
    (hf : ∀ a, r = .ok a → Settles q (f a)) : Settles q (Action.guarded r >>= f) := by
  cases r with
  | error e => exact fun _ _ => rfl
  | ok a => exact hf a rfl

/-- What comes after a look settles as if there had been no look. -/
theorem looks_bind {act : Action α} {f : α → Action β} (ha : Looks act)
    (hf : ∀ a, Settles q (f a)) : Settles q (act >>= f) := by
  intro w hw
  have hstore := ha.store_eq w
  have hfaults := ha.faults_eq w
  rw [bind_apply]
  rcases hr : act w with ⟨_ | a, v⟩
  · rw [hr] at hstore
    exact hstore
  · -- What follows starts with the same objects, and its writes are answered as before.
    rw [hr] at hstore hfaults
    have hv := hf a v (by rw [hfaults, hw])
    rwa [← hstore]

/-- After a step that changes something nothing is left that fails. -/
theorem bind_done {act : Action α} {f : α → Action β} (ha : Settles p act)
    (hf : ∀ a, p a → ∃ b, q b ∧ f a = Pure.pure b) : Settles q (act >>= f) := by
  intro w hw
  have hact := ha w hw
  rw [bind_apply]
  rcases hr : act w with ⟨_ | a, v⟩
  · rw [hr] at hact
    exact hact
  · -- The step is taken, and so what follows must not fail: it only makes an answer.
    rw [hr] at hact
    obtain ⟨b, hb, hfa⟩ := hf a hact
    dsimp only
    rw [hfa]
    exact hb

theorem map {act : Action α} {g : α → β} (ha : Settles p act) (hg : ∀ a, p a → q (g a)) :
    Settles q (g <$> act) :=
  bind_done ha fun a h => ⟨g a, hg a h, rfl⟩

/-- An attempt does not fail, whatever it has changed. -/
theorem attempt_bind_pure {act : Action α} {b : β} (hb : q b) :
    Settles q (act.attempt >>= fun _ => Pure.pure b) :=
  fun _ _ => hb

theorem ensuring {act : Action α} {last : World → World} (ha : Settles p act)
    (hl : ∀ w, (last w).store = w.store) : Settles p (act.ensuring last) := by
  intro w hw
  have hact := ha w hw
  show match (act w).1 with
    | .ok a => p a
    | .error _ => (last (act w).2).store = w.store
  rwa [hl]

/-! ## Operations of the store -/

theorem serve {op : World → Except Failure (α × Store)}
    (hop : ∀ w a s, op w = .ok (a, s) → p a) : Settles p (Vault.serve op) := by
  intro w _
  simp only [Vault.serve]
  rcases hr : op { w with served := w.served + 1 } with e | ⟨a, s⟩
  · rfl
  · exact hop _ a s hr

theorem front {c : Call} {act : Action α} (ha : Settles p act) :
    Settles p (Backend.front c act) := by
  intro w hw
  cases h : w.faults.failing c with
  | none =>
    rw [Backend.front_of_none h]
    exact ha w hw
  | some e =>
    rw [Backend.front_of_some h]

variable {area : Area} {uri : Uri}

/-- A write that has not been tampered with answers where it has written. -/
theorem write {content : ByteArray} : Settles (· = uri) (Backend.write area uri content) := by
  intro w hw
  cases h : w.faults.failing .put with
  | some e => rw [Backend.write, Backend.front_of_some h]
  | none =>
    rw [Backend.write_apply h hw]
    cases Store.writtenOver w.clock.millis uri content (w.store.find? area uri) <;> rfl

theorem makeDirectory : Settles (fun _ => True) (Backend.makeDirectory area uri) :=
  front (serve fun _ _ _ _ => trivial)

theorem remove : Settles (fun _ => True) (Backend.remove area uri) :=
  front (serve fun _ _ _ _ => trivial)

theorem removeUnder : Settles (fun _ => True) (Backend.removeUnder area uri) :=
  front (serve fun _ _ _ _ => trivial)

end Settles

end Depot.Action
