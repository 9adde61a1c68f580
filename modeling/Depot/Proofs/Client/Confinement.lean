import Depot.Proofs.Client.Footprint

/-!
# Confinement of clients

A client reaches its own area, and the namespaces of its tenant that its guard opens to it. This
holds of whole sessions, whatever references, names and namespaces the client is handed:

* no object changes but where the client reaches, and
* what is stored anywhere else makes no difference to any answer (`run_confined`).

The references that a client is handed may name any namespace. What carries the proof is that no
operation scopes by them: each has its footprint in one area (`Client.Request.footprint`,
`NamespaceFiles.Request.footprint`). The invariant of a session is `Confined`: files of a namespace
are only ever opened where the client reaches, and they are not asked for again later.
-/

namespace Depot

/-- The areas that a client may touch: its own, and those of its tenant that its guard opens. -/
def Client.Reaches (c : Client) (area : Area) : Prop :=
  area.tenant = c.context.tenant ∧
    (area.space = c.context.space ∨ c.guard.admits area c.area = true)

/-- The keys of the areas that a client may touch. -/
def Client.ReachesKey (c : Client) (k : Store.Key) : Prop :=
  c.Reaches k.area

namespace Client

variable {c : Client}

theorem reaches_area (c : Client) : c.Reaches c.area :=
  ⟨rfl, Or.inl rfl⟩

theorem Reaches.key {area : Area} (h : c.Reaches area) (k : Store.Key) (hk : k.area = area) :
    c.ReachesKey k := by
  show c.Reaches k.area
  rw [hk]
  exact h

/-! ## Opening files of a namespace -/

/-- The guard is asked about every namespace but the client's own, and its answer is final. -/
theorem openFiles_apply (c : Client) (space : String) (w : World) :
    c.openFiles space w = match Namespace.read space with
      | .error e => (.error (.badReference e), w)
      | .ok n =>
        if n = c.context.space then (.ok ⟨⟨c.context.tenant, n⟩⟩, w)
        else ((c.guard.check ⟨c.context.tenant, n⟩ c.area).map fun _ => ⟨⟨c.context.tenant, n⟩⟩,
          { w with checks := w.checks ++ [⟨⟨c.context.tenant, n⟩, c.area⟩] }) := by
  unfold openFiles
  rw [Action.guarded_bind_apply]
  cases Namespace.read space with
  | error e => rfl
  | ok n =>
    by_cases hs : n = c.context.space
    · simp only [ne_eq, hs, not_true, if_false, if_true]
      rfl
    · simp only [ne_eq, hs, not_false_eq_true, if_false, if_true]
      rw [Action.bind_apply, Action.change]
      dsimp only
      rw [Action.bind_apply, Action.ofExcept]
      cases c.guard.check ⟨c.context.tenant, n⟩ c.area <;> rfl

/-- Files are opened where the client reaches, and nowhere else. -/
theorem reaches_of_openFiles {space : String} {w : World} {f : NamespaceFiles}
    (h : (c.openFiles space w).1 = .ok f) : c.Reaches f.area := by
  rw [openFiles_apply] at h
  -- A refused text opens nothing, and the own namespace needs no guard.
  cases hn : Namespace.read space with
  | error e => simp [hn] at h
  | ok n =>
    by_cases hs : n = c.context.space
    · simp only [hn, hs, if_true, Except.ok.injEq] at h
      rw [← h]
      exact ⟨rfl, Or.inl rfl⟩
    · -- The guard has been asked, and it has to have let the client in.
      by_cases ha : c.guard.admits ⟨c.context.tenant, n⟩ c.area = true
      · simp only [hn, hs, if_false, AccessGuard.check, ha, if_true, Except.map,
          Except.ok.injEq] at h
        rw [← h]
        exact ⟨rfl, Or.inr ha⟩
      · simp [hn, hs, AccessGuard.check, ha, Except.map] at h

/-- Only the opening of files answers with files that are open. -/
theorem reaches_of_opened {r : Request} {w : World} {f : NamespaceFiles}
    (h : (r.perform c w).1 = .ok (.opened f)) : c.Reaches f.area := by
  cases r <;> simp only [Request.perform, Action.map_apply] at h
  -- Every other request has an answer of another kind.
  case openFiles space =>
    cases ho : (c.openFiles space w).1 with
    | error e => simp [ho, Except.map] at h
    | ok g =>
      simp only [ho, Except.map, Except.ok.injEq, Answer.opened.injEq] at h
      exact h ▸ reaches_of_openFiles ho
  all_goals
    unfold Except.map at h
    split at h <;> cases h

/-! ## Footprints -/

theorem Request.confined (r : Request) :
    Action.Footprint c.ReachesKey c.ReachesKey (r.perform c) :=
  r.footprint c.reaches_area.key c.reaches_area.key

end Client

theorem NamespaceFiles.Request.confined {c : Client} {f : NamespaceFiles} (r : Request)
    (hf : c.Reaches f.area) : Action.Footprint c.ReachesKey c.ReachesKey (r.perform f) :=
  r.footprint hf.key hf.key

namespace Session

variable {c : Client} {s t : Session}

/-! ## The invariant -/

/-- All files that are open are where the client reaches. -/
def Confined (c : Client) (s : Session) : Prop :=
  ∀ f ∈ s.opened, c.Reaches f.area

/-- Two sessions have the same files open, in worlds that agree on what the client reaches. -/
def AgreesFor (c : Client) (s t : Session) : Prop :=
  s.world.AgreesOn c.ReachesKey t.world ∧ s.opened = t.opened

theorem confined_start (c : Client) (w : World) : (start c w).Confined c := by
  intro f hf
  rw [List.mem_singleton.1 hf]
  exact c.reaches_area

theorem confined_openedAfter {opened : List NamespaceFiles} {answer : Except Failure Answer}
    (hs : ∀ f ∈ opened, c.Reaches f.area)
    (ha : ∀ f, answer = .ok (.opened f) → c.Reaches f.area) :
    ∀ f ∈ openedAfter opened answer, c.Reaches f.area := by
  intro f hf
  unfold openedAfter at hf
  split at hf
  · next g =>
    rcases List.mem_append.1 hf with hf | hf
    · exact hs f hf
    · exact ha f (by rw [List.mem_singleton.1 hf])
  · exact hs f hf

/-! ## One event -/

theorem step_confined (hs : s.Confined c) (event : Event) : (s.step c event).2.Confined c := by
  cases event with
  | ask r => exact confined_openedAfter hs fun f hf => Client.reaches_of_opened hf
  | askFiles i r =>
    simp only [step]
    cases hi : s.opened[i]? with
    | none => exact hs
    | some f => exact hs
  | setClock time => exact hs
  | setWall time => exact hs
  | place path entry => exact hs

/-- Out of reach no event changes anything. -/
theorem step_frame (hs : s.Confined c) (event : Event) {k : Store.Key} (hk : ¬c.ReachesKey k) :
    (s.step c event).2.world.store.objects[k]? = s.world.store.objects[k]? := by
  cases event with
  | ask r => exact r.confined.frame s.world k hk
  | askFiles i r =>
    simp only [step]
    cases hi : s.opened[i]? with
    | none => rfl
    | some f => exact (r.confined (hs f (List.mem_of_getElem? hi))).frame s.world k hk
  | setClock time => rfl
  | setWall time => rfl
  | place path entry => rfl

/-- What is out of reach does not show in the answer to an event, and is as it was after it. -/
theorem step_blind (hs : s.Confined c) (h : s.AgreesFor c t) (event : Event) :
    (s.step c event).1 = (t.step c event).1 ∧
      (s.step c event).2.AgreesFor c (t.step c event).2 := by
  obtain ⟨hw, ho⟩ := h
  cases event with
  | ask r =>
    obtain ⟨hr, hv⟩ := r.confined.blind _ _ hw
    -- The same answer opens the same files.
    have hopened : openedAfter s.opened (r.perform c s.world).1 =
        openedAfter t.opened (r.perform c t.world).1 := by
      rw [ho, hr]
    exact ⟨congrArg some hr, hv, hopened⟩
  | askFiles i r =>
    simp only [step, ← ho]
    cases hi : s.opened[i]? with
    | none => exact ⟨rfl, hw, ho⟩
    | some f =>
      have hf : c.Reaches f.area := hs f (List.mem_of_getElem? hi)
      obtain ⟨hr, hv⟩ := (r.confined hf).blind _ _ hw
      exact ⟨congrArg some hr, hv, rfl⟩
  | setClock time =>
    exact ⟨rfl, ⟨rfl, hw.wall, hw.faults, hw.checks, hw.disk, hw.objects⟩, ho⟩
  | setWall time =>
    exact ⟨rfl, ⟨hw.clock, rfl, hw.faults, hw.checks, hw.disk, hw.objects⟩, ho⟩
  | place path entry =>
    exact ⟨rfl, ⟨hw.clock, hw.wall, hw.faults, hw.checks,
      congrArg (·.put path entry) hw.disk, hw.objects⟩, ho⟩

/-! ## Whole sessions -/

theorem run_frame (hs : s.Confined c) (events : List Event) {k : Store.Key}
    (hk : ¬c.ReachesKey k) :
    (run c s events).2.world.store.objects[k]? = s.world.store.objects[k]? := by
  induction events generalizing s with
  | nil => rfl
  | cons event events ih =>
    calc (run c (s.step c event).2 events).2.world.store.objects[k]?
        = (s.step c event).2.world.store.objects[k]? := ih (step_confined hs event)
      _ = s.world.store.objects[k]? := step_frame hs event hk

theorem run_blind (hs : s.Confined c) (h : s.AgreesFor c t) (events : List Event) :
    (run c s events).1 = (run c t events).1 := by
  induction events generalizing s t with
  | nil => rfl
  | cons event events ih =>
    obtain ⟨ha, hst⟩ := step_blind hs h event
    have hrest := ih (step_confined hs event) hst
    simp only [run, ha, hrest]

/-- Every object is where the client reaches or is as it was, and the answers are the same in any
two worlds that agree on what the client reaches. -/
theorem run_confined (c : Client) (events : List Event) (w : World) :
    (∀ k : Store.Key, c.Reaches k.area ∨
      (run c (start c w) events).2.world.store.objects[k]? = w.store.objects[k]?) ∧
    ∀ v, v.AgreesOn c.ReachesKey w →
      (run c (start c v) events).1 = (run c (start c w) events).1 := by
  have hstart : ∀ v, (start c v).Confined c := confined_start c
  constructor
  · intro k
    by_cases hk : c.Reaches k.area
    · exact Or.inl hk
    · exact Or.inr (run_frame (hstart w) events hk)
  · intro v hv
    have hvw : (start c v).AgreesFor c (start c w) := ⟨hv, rfl⟩
    exact run_blind (hstart v) hvw events

/-- A file of another namespace does not show, whatever is asked for by its reference. -/
theorem run_confined_beside_secret :
    let c := Client.daily
    let w := World.start .noon2024
    let secret : Store.Key := ⟨⟨none, ⟨"closed", by decide⟩⟩, .ofNames ["closed", "_files", "a"]⟩
    let v := { w with store := w.store.insert secret.area secret.uri ⟨.empty, .file, 0, 0⟩ }
    let events : List Event := [.ask (.remove (some "kestra:///closed/_files/a")),
      .ask (.openFiles "closed"), .askFiles 0 (.all none true), .askFiles 1 (.read "a")]
    v.AgreesOn c.ReachesKey w ∧ ¬c.Reaches secret.area ∧
      (run c (start c v) events).1 = (run c (start c w) events).1 := by
  intro c w secret v events
  have hout : ¬c.Reaches secret.area := by
    rintro ⟨-, h | h⟩
    · exact absurd h (by decide)
    · exact absurd h (by decide)
  have hvw : v.AgreesOn c.ReachesKey w := by
    refine ⟨rfl, rfl, rfl, rfl, rfl, fun k hk => ?_⟩
    have hne : k ≠ secret := by
      intro e
      rw [e] at hk
      exact hout hk
    exact (Store.getElem?_insert ..).trans (if_neg hne)
  exact ⟨hvw, hout, (run_confined c events w).2 v hvw⟩

end Session

end Depot
