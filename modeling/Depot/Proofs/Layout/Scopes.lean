import Depot.Proofs.Layout.Areas
import Depot.Proofs.Layout.Named

/-!
# Files of the scopes of a run

The files of a run, and those of its tasks and triggers, lie below one another: a run that is not
in the scope of any may use names that lead among the files of a task. So two scopes have a place
in common if one of them is the run as a whole and the name there spells the way to the other one
(`Context.Spells`), and never otherwise (`scopes_apart`). The words `tasks` and `trigger` are what
tells scopes apart, whatever tasks, triggers and files are called.
-/

namespace Depot

namespace Context

variable {c d : Context} {m n : String}

/-- A name below the run as a whole spells the way to another scope and a name there. -/
def Spells (c d : Context) (m n : String) : Prop :=
  c.scope = .execution ∧ d.scope ≠ .execution ∧ m = Text.glue '/' (d.scopeWay ++ [n])

instance (c d : Context) (m n : String) : Decidable (c.Spells d m n) :=
  inferInstanceAs (Decidable (_ ∧ _))

/-- No name on the way to a scope has a slash in it. -/
theorem not_mem_of_mem_scopeWay : ∀ part ∈ c.scopeWay, '/' ∉ part.toList := by
  intro part hpart
  have hname : part ∈ c.scopeNames := by
    rw [scopeNames_eq]
    exact List.mem_append_right _ hpart
  exact (isPiece_of_isName (isName_of_mem_scopeNames part hname)).2

/-- The way to a scope tells it, unless it is no way at all: then whatever follows may be taken for
one. -/
theorem scopeWay_append_eq_iff {xs ys : List String} :
    c.scopeWay ++ xs = d.scopeWay ++ ys ↔
      c.scope = d.scope ∧ xs = ys ∨
      (c.scope = .execution ∧ d.scope ≠ .execution ∧ xs = d.scopeWay ++ ys) ∨
      (d.scope = .execution ∧ c.scope ≠ .execution ∧ ys = c.scopeWay ++ xs) := by
  unfold scopeWay
  -- Two ways that start with the same word are of the same length, and are compared name by name.
  cases hc : c.scope <;> cases hd : d.scope <;> simp [Ident.text_inj, and_assoc, eq_comm]

/-- A name spells what the pieces of it say. -/
theorem spells_iff :
    c.Spells d m n ↔ c.scope = .execution ∧ d.scope ≠ .execution ∧
      Text.pieces '/' m = d.scopeWay ++ Text.pieces '/' n := by
  have hpieces := Text.pieces_glue_concat (not_mem_of_mem_scopeWay (c := d)) n
  refine and_congr_right fun _ => and_congr_right fun _ => ?_
  rw [← hpieces]
  constructor
  · intro h
    rw [h]
  · exact Text.pieces_injective

/-- What follows the way to a run is the same for two files if they are the same file of one scope,
or the name of one spells the way to the other. -/
theorem scopeWay_append_pieces_eq_iff :
    c.scopeWay ++ Text.pieces '/' m = d.scopeWay ++ Text.pieces '/' n ↔
      c.scope = d.scope ∧ m = n ∨ c.Spells d m n ∨ d.Spells c n m := by
  have hinj : Text.pieces '/' m = Text.pieces '/' n ↔ m = n :=
    ⟨Text.pieces_injective, fun h => by rw [h]⟩
  rw [scopeWay_append_eq_iff, hinj, spells_iff, spells_iff]

end Context

/-- Two files of a namespace that have been given names by runs are at one place only if they are of
one run, and of the same scope of it unless one of them is in no scope but the run. In the same
scope they are at one place only if the name is the same, and from the run as a whole a name leads
into another scope if it spells the way there. -/
theorem scopes_apart (c d : Context) (harea : d.area = c.area) {m n : String} {u v : Uri}
    (hu : c.baseUri.resolve m = .ok u) (hv : d.baseUri.resolve n = .ok v) :
    (u = v → c.flow = d.flow ∧ c.execution = d.execution ∧
      (c.scope = d.scope ∨ c.scope = .execution ∨ d.scope = .execution) ∧
      (c.scope = d.scope → m = n)) ∧
    (u = v ↔ c.flow = d.flow ∧ c.execution = d.execution ∧
      (c.scope = d.scope ∧ m = n ∨ c.Spells d m n ∨ d.Spells c n m)) := by
  obtain ⟨hm, rfl⟩ := Context.resolve_baseUri_way hu
  obtain ⟨hn, rfl⟩ := Context.resolve_baseUri_way hv
  have hspace : d.space = c.space := congrArg Area.space harea
  -- Below the namespace the ways go through the flow, a word and the run.
  have hiff : Uri.ofNames (c.space.segments ++ c.runFileWay m) =
      Uri.ofNames (d.space.segments ++ d.runFileWay n) ↔
        c.flow = d.flow ∧ c.execution = d.execution ∧
          (c.scope = d.scope ∧ m = n ∨ c.Spells d m n ∨ d.Spells c n m) := by
    rw [Uri.ofNames_inj hm hn, hspace, List.append_cancel_left_eq,
      ← Context.scopeWay_append_pieces_eq_iff]
    simp [Context.runFileWay, Ident.text_inj]
  refine ⟨fun h => ?_, hiff⟩
  obtain ⟨hflow, hexecution, ⟨hscope, hname⟩ | ⟨hc, hd, -⟩ | ⟨hd, hc, -⟩⟩ := hiff.1 h
  · exact ⟨hflow, hexecution, Or.inl hscope, fun _ => hname⟩
  · exact ⟨hflow, hexecution, Or.inr (Or.inl hc), fun hscope => absurd (hscope ▸ hc) hd⟩
  · exact ⟨hflow, hexecution, Or.inr (Or.inr hd), fun hscope => absurd (hscope ▸ hd) hc⟩

/-- A name that spells the way to a task leads there, and a task that is called `trigger` does not
share its file with a trigger, although the run of the task is called like the trigger. -/
theorem scopes_apart_of_lookalikes :
    let run := Context.daily
    let task := { run with scope := .ofTask ⟨"trigger", by decide⟩ }
    let trigger := { run with scope := .trigger ⟨⟨"run-1", by decide⟩⟩ }
    ∃ u v w, run.baseUri.resolve "tasks/trigger/run-1/a" = .ok u ∧
      task.baseUri.resolve "a" = .ok v ∧ trigger.baseUri.resolve "a" = .ok w ∧ u = v ∧ v ≠ w := by
  intro run task trigger
  have hrun : run.baseUri.resolve "tasks/trigger/run-1/a" =
      .ok (.ofNames (run.scopeNames ++ Text.pieces '/' "tasks/trigger/run-1/a")) :=
    Context.resolve_baseUri_eq_ok_iff.2 ⟨by decide, rfl⟩
  have htask : task.baseUri.resolve "a" = .ok (.ofNames (task.scopeNames ++ Text.pieces '/' "a")) :=
    Context.resolve_baseUri_eq_ok_iff.2 ⟨by decide, rfl⟩
  have htrigger : trigger.baseUri.resolve "a" =
      .ok (.ofNames (trigger.scopeNames ++ Text.pieces '/' "a")) :=
    Context.resolve_baseUri_eq_ok_iff.2 ⟨by decide, rfl⟩
  refine ⟨_, _, _, hrun, htask, htrigger, ?_, fun h => ?_⟩
  · exact (scopes_apart run task rfl hrun htask).2.2 ⟨rfl, rfl, Or.inr (Or.inl (by decide))⟩
  · exact absurd ((scopes_apart task trigger rfl htask htrigger).1 h).2.2.1 (by decide)

end Depot
