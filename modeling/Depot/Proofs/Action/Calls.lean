import Depot.Proofs.Action.Footprint

/-!
# Calls that get through

A call that is not to fail at the front is served by the store: it answers what the store answers,
it is counted, and it leaves the store that the operation leaves.
-/

namespace Depot

/-- The world after a call that the store has served, and the store that the call has left. -/
def World.serving (w : World) (s : Store) : World :=
  { w with served := w.served + 1, store := s }

@[simp]
theorem World.serving_store (w : World) (s : Store) : (w.serving s).store = s :=
  rfl

@[simp]
theorem World.serving_faults (w : World) (s : Store) : (w.serving s).faults = w.faults :=
  rfl

namespace Vault

theorem look_apply {α : Type} (op : Store → Except Failure α) (w : World) :
    look op w = (op w.store, w.serving w.store) := by
  simp only [look, serve]
  cases op w.store <;> rfl

end Vault

namespace Backend

variable {w : World} {area : Area} {uri : Uri}

theorem front_of_none {α : Type} {c : Call} (h : w.faults.failing c = none) (act : Action α) :
    front c act w = act w := by
  simp only [front, h]

theorem front_of_some {α : Type} {c : Call} {e : Failure} (h : w.faults.failing c = some e)
    (act : Action α) : front c act w = (.error e, w) := by
  simp only [front, h]

theorem contains_apply (h : w.faults.failing .exists = none) :
    contains area uri w = (.ok (w.store.contains area uri), w.serving w.store) := by
  rw [contains, front_of_none h, Vault.contains, Vault.look_apply]

theorem read_apply (h : w.faults.failing .get = none) :
    read area uri w = (w.store.read area uri, w.serving w.store) := by
  rw [read, front_of_none h, Vault.read, Vault.look_apply]

theorem attributes_apply (h : w.faults.failing .attributes = none) :
    attributes area uri w = (w.store.attributes area uri, w.serving w.store) := by
  rw [attributes, front_of_none h, Vault.attributes, Vault.look_apply]

theorem list_apply (h : w.faults.failing .list = none) (hr : w.faults.listReturns = none) :
    list area uri w = (.ok (w.store.list area uri), w.serving w.store) := by
  rw [list, front_of_none h, Action.bind_apply, Vault.list, Vault.look_apply]
  dsimp only
  rw [Action.bind_apply, Action.observe]
  dsimp only
  rw [World.serving_faults, hr]
  rfl

/-- A write that gets through puts the file that goes over what was there, if one does. -/
theorem write_apply (h : w.faults.failing .put = none) (hr : w.faults.putReturns = none)
    (content : ByteArray) :
    write area uri content w =
      match Store.writtenOver w.clock.millis uri content (w.store.find? area uri) with
      | .ok o => (.ok uri, w.serving (w.store.insert area uri o))
      | .error e => (.error e, w.serving w.store) := by
  rw [write, front_of_none h, Action.bind_apply, Vault.write, Vault.serve]
  simp only [Store.write_eq]
  cases Store.writtenOver w.clock.millis uri content (w.store.find? area uri) with
  | error e => rfl
  | ok o =>
    dsimp only [Except.map]
    rw [Action.bind_apply, Action.observe]
    dsimp only
    rw [hr]
    rfl

/-- Making a directory puts a mark where nothing was. -/
theorem makeDirectory_apply (h : w.faults.failing .makeDirectory = none) :
    makeDirectory area uri w =
      match Store.madeOver uri (w.store.find? area uri) with
      | .ok new => (.ok new, w.serving (if new then
          w.store.insert area uri ⟨.empty, .directory, w.clock.millis, w.clock.millis⟩
        else w.store))
      | .error e => (.error e, w.serving w.store) := by
  rw [makeDirectory, front_of_none h, Vault.makeDirectory, Vault.serve]
  simp only [Store.makeDirectory_eq]
  cases Store.madeOver uri (w.store.find? area uri) <;> rfl

theorem remove_apply (h : w.faults.failing .delete = none) :
    remove area uri w =
      (.ok (w.store.contains area uri), w.serving (w.store.remove area uri).2) := by
  rw [remove, front_of_none h, Vault.remove, Vault.serve, Store.remove_eq]
  rfl

theorem removeUnder_apply (h : w.faults.failing .deleteUnder = none) :
    removeUnder area uri w =
      (.ok ((w.store.keysUnder area uri).map Store.Key.uri),
        w.serving (w.store.prune area uri)) := by
  rw [removeUnder, front_of_none h]
  rfl

end Backend

end Depot
