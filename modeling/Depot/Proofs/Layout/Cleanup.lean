import Depot.Proofs.Client.AllOrNothing

/-!
# Cleaning up after a run

The removal of a run takes its branch, by whole segments: `exec-1` is no beginning of `exec-10`, and
neither are a flow and a run that share their letters with others. All that a run has written under
names is in its branch, whatever the scope was (`Client.startsWith_executionUri_of_runFile`), and
what other runs have written is not.
-/

namespace Depot

open Depot.Action (Settles)

namespace Client

variable {c d : Client} {u : Uri} {w : World}

/-- A file is written at the reference under some name, in some world whose writes answer where they
wrote. -/
def WritesRunFile (d : Client) (u : Uri) : Prop :=
  ∃ w : World, w.faults.putReturns = none ∧
    ((∃ source name, (d.put source name w).1 = .ok u) ∨
      ∃ path name, (d.putLocal path name w).1 = .ok u)

/-- What is written under names is all that names lead to from the base. -/
theorem writesRunFile_iff :
    d.WritesRunFile u ↔ ∃ name, d.context.baseUri.resolve name = .ok u := by
  constructor
  · rintro ⟨w, hw, ⟨source, name, hu⟩ | ⟨path, name, hu⟩⟩
    · have hsettles : Settles (d.context.baseUri.resolve name = .ok ·) (d.put source name) :=
        settles_guarded_writeAt
      have hresolve := hsettles w hw
      rw [hu] at hresolve
      exact ⟨name, hresolve⟩
    · have hsettles : Settles (fun u => (Request.putLocal path name).WritesTo d u)
          (d.putLocal path name) := settles_putLocal
      have hresolve := hsettles w hw
      rw [hu] at hresolve
      obtain ⟨n, -, hn⟩ := hresolve
      exact ⟨n, hn⟩
  · rintro ⟨name, hu⟩
    -- Where nothing is stored and nothing fails, a write gets through.
    let w := World.start .noon2024
    have hwrite : Backend.write d.area u .empty w = _ := Backend.write_apply rfl rfl .empty
    have hempty : w.store.find? d.area u = none := rfl
    rw [hempty] at hwrite
    refine ⟨w, rfl, Or.inl ⟨.ofBytes .empty, name, ?_⟩⟩
    rw [put, Action.guarded_bind_apply, hu]
    exact congrArg Prod.fst hwrite

/-- What is written under a name is in the branch of its own run, and in no other. -/
theorem startsWith_executionUri_iff (harea : d.area = c.area) (h : d.WritesRunFile u) :
    u.startsWith c.context.executionUri = true ↔
      d.context.flow = c.context.flow ∧ d.context.execution = c.context.execution := by
  obtain ⟨name, hname⟩ := writesRunFile_iff.1 h
  obtain ⟨hparts, rfl⟩ := Context.resolve_baseUri_way hname
  -- Below its namespace the file is reached through its flow, a word and its run.
  have hunder := c.isUnder_executionUri_iff d.area hparts
  rw [Store.isUnder_iff] at hunder
  have hway : [c.context.flow.text, "executions", c.context.execution.text] <+:
      d.context.runFileWay name ↔
        d.context.flow = c.context.flow ∧ d.context.execution = c.context.execution := by
    simp [Context.runFileWay, List.cons_prefix_cons, Ident.text_inj, eq_comm]
  rwa [hway, and_iff_right harea, and_iff_right harea] at hunder

theorem removeExecution_apply (h : w.faults.failing .deleteUnder = none) :
    c.removeExecution w =
      (.ok ((w.store.keysUnder c.area c.context.executionUri).map Store.Key.uri),
        w.serving (w.store.prune c.area c.context.executionUri)) :=
  Backend.removeUnder_apply h

/-- The removal of a run takes all that is stored at its place and below, answers where that was, in
order, and leaves everything else as it was. Nothing is left to be removed then, and nothing that
the run has written under a name in any of its scopes; what other flows and other runs have written
is still there. -/
theorem removeExecution_exact (c : Client) (w : World)
    (hw : w.faults.failing .deleteUnder = none) :
    let v := (c.removeExecution w).2
    (∃ removed, (c.removeExecution w).1 = .ok removed ∧
      (∀ u, u ∈ removed ↔
        w.store.contains c.area u = true ∧ u.startsWith c.context.executionUri = true) ∧
      removed.Pairwise fun a b => a.text < b.text) ∧
    (∀ k : Store.Key, v.store.objects[k]? =
      if k.area = c.area ∧ k.uri.startsWith c.context.executionUri = true then none
      else w.store.objects[k]?) ∧
    (c.removeExecution v).1 = .ok [] ∧
    ∀ (d : Client) (u : Uri), d.area = c.area → d.WritesRunFile u →
      (d.context.flow = c.context.flow ∧ d.context.execution = c.context.execution →
        v.store.contains d.area u = false) ∧
      (d.context.flow ≠ c.context.flow ∨ d.context.execution ≠ c.context.execution →
        v.store.objects[(⟨d.area, u⟩ : Store.Key)]? =
          w.store.objects[(⟨d.area, u⟩ : Store.Key)]?) := by
  intro v
  have hremoved := removeExecution_apply (c := c) hw
  have hkeys : ∀ k : Store.Key, v.store.objects[k]? =
      if k.area = c.area ∧ k.uri.startsWith c.context.executionUri = true then none
      else w.store.objects[k]? := by
    intro k
    rw [c.getElem?_removeExecution w k]
    simp only [hw, true_and, Store.isUnder_iff]
  refine ⟨⟨_, congrArg Prod.fst hremoved, fun u => Store.mem_map_keysUnder_iff, ?_⟩, hkeys, ?_, ?_⟩
  · refine (Store.ordered_keysUnder w.store c.area c.context.executionUri).imp fun {a b} h => ?_
    exact compareOfLessAndEq_eq_lt.1 h
  · -- A call that has got through gets through again, as the faults are still the same.
    have hv : v = w.serving (w.store.prune c.area c.context.executionUri) :=
      congrArg Prod.snd hremoved
    have hagain := removeExecution_apply (c := c) (w := v) (by rw [hv]; exact hw)
    rw [hagain, hv, World.serving_store, Store.keysUnder_prune]
    rfl
  · intro d u harea hu
    have hbelow := startsWith_executionUri_iff harea hu
    constructor
    · intro hsame
      rw [Store.contains, Store.find?_eq, hkeys, if_pos ⟨harea, hbelow.2 hsame⟩]
      rfl
    · intro hother
      rw [hkeys, if_neg]
      rintro ⟨-, hstarts⟩
      obtain ⟨hflow, hexecution⟩ := hbelow.1 hstarts
      exact hother.elim (fun h => h hflow) fun h => h hexecution

/-- The removal of the run `exec-1` leaves the files of the run `exec-10`. -/
theorem removeExecution_exact_of_neighbours :
    let c := Client.daily
    let d := { c with context := { c.context with execution := ⟨⟨"exec-10", by decide⟩⟩ } }
    let put : Client.Request := .put (.ofBytes .empty) "a"
    let w := (World.start .noon2024).after [.ask (.client c put), .ask (.client d put)]
    let v := (c.removeExecution w).2
    ∃ a b, c.WritesRunFile a ∧ d.WritesRunFile b ∧ (c.removeExecution w).1 = .ok [a] ∧
      w.store.contains c.area b = true ∧
      v.store.contains c.area a = false ∧ v.store.contains c.area b = true := by
  intro c d put w v
  let a := Uri.ofNames ["open", "daily", "executions", "exec-1", "a"]
  let b := Uri.ofNames ["open", "daily", "executions", "exec-10", "a"]
  have ha : c.WritesRunFile a := writesRunFile_iff.2 ⟨"a", by decide +kernel⟩
  have hb : d.WritesRunFile b := writesRunFile_iff.2 ⟨"a", by decide +kernel⟩
  have hremoved : (c.removeExecution w).1 = .ok [a] := by decide +kernel
  have hthere : w.store.contains c.area b = true := by decide +kernel
  have hfaults : w.faults.failing .deleteUnder = none := by decide +kernel
  obtain ⟨-, -, -, hfiles⟩ := removeExecution_exact c w hfaults
  have hgone : v.store.contains c.area a = false := (hfiles c a rfl ha).1 ⟨rfl, rfl⟩
  have hkept : v.store.objects[(⟨c.area, b⟩ : Store.Key)]? =
      w.store.objects[(⟨c.area, b⟩ : Store.Key)]? := (hfiles d b rfl hb).2 (Or.inr (by decide))
  refine ⟨a, b, ha, hb, hremoved, hthere, hgone, ?_⟩
  rw [Store.contains, Store.find?_eq, hkept]
  exact hthere

end Client

end Depot
