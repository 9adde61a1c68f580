import Depot.Proofs.Action.Calls
import Depot.Proofs.Action.Footprint

/-!
# What success tells

An action that has succeeded has succeeded step by step, and the answer and the world it leaves
tell what each step did. `Action.bind_eq_ok_iff` takes a sequence apart, and there is such a lemma
for each combinator; `Backend.write_eq_ok` says what a write that got through has done.
-/

namespace Depot

namespace Action

variable {α β : Type} {act : Action α} {w v : World} {b : β}

/-- Two steps succeed if the first one does, and the second one does where the first one leads. -/
theorem bind_eq_ok_iff {f : α → Action β} :
    (act >>= f) w = (.ok b, v) ↔ ∃ a u, act w = (.ok a, u) ∧ f a u = (.ok b, v) := by
  rw [bind_apply]
  rcases act w with ⟨e | a, u⟩
  · constructor
    · rintro ⟨⟩
    · rintro ⟨a, u', ⟨⟩, -⟩
  · constructor
    · intro h
      exact ⟨a, u, rfl, h⟩
    · rintro ⟨a', u', h, hf⟩
      cases h
      exact hf

theorem map_eq_ok_iff {g : α → β} :
    (g <$> act) w = (.ok b, v) ↔ ∃ a, act w = (.ok a, v) ∧ g a = b := by
  constructor
  · intro h
    obtain ⟨a, u, ha, hb⟩ := bind_eq_ok_iff.1 h
    cases hb
    exact ⟨a, ha, rfl⟩
  · rintro ⟨a, ha, rfl⟩
    exact bind_eq_ok_iff.2 ⟨a, v, ha, rfl⟩

theorem ofExcept_bind_eq_ok_iff {r : Except Failure α} {f : α → Action β} :
    (ofExcept r >>= f) w = (.ok b, v) ↔ ∃ a, r = .ok a ∧ f a w = (.ok b, v) := by
  rw [bind_eq_ok_iff]
  constructor
  · rintro ⟨a, u, ha, hb⟩
    cases ha
    exact ⟨a, rfl, hb⟩
  · rintro ⟨a, rfl, hb⟩
    exact ⟨a, w, rfl, hb⟩

theorem guarded_bind_eq_ok_iff {r : Except BadReference α} {f : α → Action β} :
    (guarded r >>= f) w = (.ok b, v) ↔ ∃ a, r = .ok a ∧ f a w = (.ok b, v) := by
  simp only [guarded, ofExcept_bind_eq_ok_iff, mapError_eq_ok_iff]

theorem guarded_eq_ok {r : Except BadReference α} {a : α} (h : guarded r w = (.ok a, v)) :
    r = .ok a ∧ v = w := by
  cases r with
  | error e => cases h
  | ok b =>
    cases h
    exact ⟨rfl, rfl⟩

end Action

/-- A file has been written and a reference has been answered: that of the file, unless the front
of the backend answers with another one. -/
structure World.Wrote (w v : World) (area : Area) (uri : Uri) (content : ByteArray)
    (answered : Uri) : Prop where
  answered : answered = uri ∨ w.faults.putReturns = some answered
  faults : v.faults = w.faults
  stored : v.store.read area uri = .ok content

theorem Backend.write_eq_ok {w v : World} {area : Area} {uri u : Uri} {content : ByteArray}
    (h : Backend.write area uri content w = (.ok u, v)) : w.Wrote v area uri content u := by
  cases hfails : w.faults.failing .put with
  | some e =>
    rw [Backend.write, front_of_some hfails] at h
    cases h
  | none =>
    rw [Backend.write, front_of_none hfails] at h
    obtain ⟨written, x, hwritten, h⟩ := Action.bind_eq_ok_iff.1 h
    simp only [Vault.write, Vault.serve, Store.write_eq] at hwritten
    cases ho : Store.writtenOver w.clock.millis uri content (w.store.find? area uri) with
    | error e =>
      rw [ho] at hwritten
      cases hwritten
    | ok o =>
      rw [ho] at hwritten
      cases hwritten
      cases h
      constructor
      · show w.faults.putReturns.getD uri = uri ∨
          w.faults.putReturns = some (w.faults.putReturns.getD uri)
        cases w.faults.putReturns <;> simp
      · rfl
      · rw [← Store.content_of_writtenOver ho]
        exact Store.read_insert (Store.kind_of_writtenOver ho)

namespace World.Wrote

variable {w v : World} {area : Area} {uri u : Uri} {content : ByteArray}

/-- What has been written stays when a local file is taken away. -/
theorem unlink (h : w.Wrote v area uri content u) (path : LocalPath) :
    w.Wrote { v with disk := v.disk.unlink path } area uri content u :=
  ⟨h.answered, h.faults, h.stored⟩

end World.Wrote

end Depot
