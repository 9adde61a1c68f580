/-!
# Answers that may be refusals

What is gone through one by one is refused as soon as something in it is: `List.mapM` over `Except`
answers if and only if there is an answer to everything in the list (`exists_mapM_eq_ok_iff`), and
then with all the answers (`mapM_eq_ok_map`). Where what has been read can be written again, the
list that is read is the one that is written (`mapM_eq_ok_iff_map`).
-/

namespace Depot

theorem bind_eq_ok_iff {ε α β : Type} {x : Except ε α} {f : α → Except ε β} {b : β} :
    x >>= f = .ok b ↔ ∃ a, x = .ok a ∧ f a = .ok b := by
  cases x <;> simp [bind, Except.bind]

/-! ## Errors of another kind -/

section MapError

variable {α ε ε' : Type} {r : Except ε α} {g : ε → ε'}

theorem mapError_eq_ok_iff {a : α} : r.mapError g = .ok a ↔ r = .ok a := by
  cases r with
  | error e =>
    show Except.error (g e) = .ok a ↔ _
    simp
  | ok b =>
    show Except.ok b = .ok a ↔ _
    simp

theorem mapError_eq_error_iff {e' : ε'} :
    r.mapError g = .error e' ↔ ∃ e, r = .error e ∧ g e = e' := by
  cases r with
  | error e =>
    show Except.error (g e) = .error e' ↔ _
    simp
  | ok b =>
    show Except.ok b = .error e' ↔ _
    simp

end MapError

/-! ## Lists -/

/-- A list is gone through to its end if and only if nothing in it is refused. -/
theorem exists_mapM_eq_ok_iff {α β ε : Type} {g : α → Except ε β} {l : List α} :
    (∃ out, l.mapM g = .ok out) ↔ ∀ x ∈ l, ∃ y, g x = .ok y := by
  induction l with
  | nil => simp [pure, Except.pure]
  | cons x l ih =>
    rw [List.mapM_cons, List.forall_mem_cons, ← ih]
    cases g x with
    | error e => simp [bind, Except.bind]
    | ok y => cases l.mapM g <;> simp [bind, Except.bind, pure, Except.pure]

/-- A list is gone through with the answers to all that is in it. -/
theorem mapM_eq_ok_map {α β ε : Type} {g : α → Except ε β} {k : α → β} {l : List α}
    (h : ∀ x ∈ l, g x = .ok (k x)) : l.mapM g = .ok (l.map k) := by
  induction l with
  | nil => rfl
  | cons x l ih =>
    rw [List.mapM_cons, h x List.mem_cons_self, ih fun y hy => h y (List.mem_cons_of_mem _ hy)]
    rfl

/-- If reading accepts what is written and nothing else, so does the reading of a list. -/
theorem mapM_eq_ok_iff_map {α β ε : Type} {g : α → Except ε β} {k : β → α}
    (h : ∀ x y, g x = .ok y ↔ k y = x) {l : List α} {ys : List β} :
    l.mapM g = .ok ys ↔ ys.map k = l := by
  induction l generalizing ys with
  | nil => simp [pure, Except.pure, eq_comm]
  | cons x l ih =>
    rw [List.mapM_cons, List.map_eq_cons_iff]
    cases hx : g x with
    | error e =>
      constructor
      · rintro ⟨⟩
      · rintro ⟨y, ys, -, hy, -⟩
        rw [← h, hx] at hy
        cases hy
    | ok y =>
      have hy : ∀ z, k z = x ↔ z = y := by
        intro z
        rw [← h, hx, Except.ok.injEq, eq_comm]
      simp only [hy, ← ih]
      cases l.mapM g <;> simp [bind, Except.bind, pure, Except.pure, eq_comm]

end Depot
