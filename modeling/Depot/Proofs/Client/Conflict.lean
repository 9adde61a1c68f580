import Depot.Proofs.Client.FileSteps

/-!
# Files that are put where something is

The policy says what becomes of a file that is put where something is already, and only whether
something is there is asked. So a directory that has been made counts as something that is left
alone, and is answered as if it were a file (`skip_answers_directory`). But for that the answer is
what can be read afterwards (`put_keeps_promise`).
-/

namespace Depot

namespace NamespaceFiles

variable {f : NamespaceFiles} {s t : Store} {now : Int} {path : String} {source : Source}
  {policy : OnConflict} {u : Uri} {w v : World} {file : NamespaceFile}

/-- What is there is left alone, or a file is written, over a file or where nothing was. -/
theorem putIn_eq_ok_iff :
    f.putIn s now path source policy u = .ok t ↔
      (policy = .skip ∧ s.contains f.area u = true ∧ t = s) ∨
      ((policy = .overwrite ∨ s.contains f.area u = false) ∧
        ∃ content o, source.readAll = .ok content ∧
          Store.writtenOver now u content (s.find? f.area u) = .ok o ∧
            t = s.insert f.area u o) := by
  have hwrite : source.readAll.bind (s.write now f.area u) = .ok t ↔
      ∃ content o, source.readAll = .ok content ∧
        Store.writtenOver now u content (s.find? f.area u) = .ok o ∧ t = s.insert f.area u o := by
    cases source.readAll with
    | error e => simp [Except.bind]
    | ok content =>
      rw [Except.bind, Store.write_eq]
      cases ho : Store.writtenOver now u content (s.find? f.area u) <;>
        simp [ho, Except.map, eq_comm (a := t)]
  unfold putIn
  rw [← hwrite]
  cases policy <;> cases s.contains f.area u <;> simp [eq_comm]

/-- There is a file in the end, unless a directory is left alone. -/
theorem exists_file_of_putIn (h : f.putIn s now path source policy u = .ok t) :
    (∃ o, t.find? f.area u = some o ∧ o.kind = .file) ↔
      ¬(policy = .skip ∧ s.holdsDirectory ⟨f.area, u⟩ = true) := by
  rcases putIn_eq_ok_iff.1 h with ⟨rfl, hthere, rfl⟩ | ⟨hfree, content, o, -, ho, rfl⟩
  · -- What has been left alone is a file or a directory.
    obtain ⟨o, ho⟩ := Store.contains_iff.1 hthere
    rw [← Store.find?_eq] at ho
    simp [Store.holdsDirectory_eq_false_iff, ho]
  · refine iff_of_true ⟨o, Store.find?_insert_self, Store.kind_of_writtenOver ho⟩ ?_
    -- Where there was something a file has gone over it, and the policy was to do so.
    rintro ⟨rfl, hmark⟩
    have hnone : s.find? f.area u = none :=
      Store.contains_eq_false_iff.1 (hfree.resolve_left nofun)
    rw [Store.holdsDirectory, ← Store.find?_eq, hnone] at hmark
    cases hmark

/-- What goes over what was there, or where nothing was, is read afterwards. -/
theorem read_putIn (h : f.putIn s now path source policy u = .ok t)
    (hfree : policy = .overwrite ∨ s.contains f.area u = false) :
    ∃ content, source.readAll = .ok content ∧ t.read f.area u = .ok content := by
  rcases putIn_eq_ok_iff.1 h with ⟨rfl, hthere, -⟩ | ⟨-, content, o, hcontent, ho, rfl⟩
  · rw [hthere] at hfree
    simp at hfree
  · refine ⟨content, hcontent, ?_⟩
    rw [Store.read_insert (Store.kind_of_writtenOver ho), Store.content_of_writtenOver ho]

/-- What may stay is left alone. -/
theorem eq_of_putIn_skip (h : f.putIn s now path source .skip u = .ok t)
    (hthere : s.contains f.area u = true) : t = s := by
  rcases putIn_eq_ok_iff.1 h with ⟨-, -, rfl⟩ | ⟨hfree, -⟩
  · rfl
  · rw [hthere] at hfree
    simp at hfree

/-- A file can be put if what is there may stay, or if it is complete and no directory is in its
way. -/
theorem exists_putIn_iff (now : Int) (path : String) :
    (∃ t, f.putIn s now path source policy u = .ok t) ↔
      policy = .skip ∧ s.contains f.area u = true ∨
      (policy = .overwrite ∨ s.contains f.area u = false) ∧
        (∃ content, source.readAll = .ok content) ∧ s.holdsDirectory ⟨f.area, u⟩ = false := by
  simp only [putIn_eq_ok_iff]
  constructor
  · rintro ⟨t, ⟨hpolicy, hthere, -⟩ | ⟨hfree, content, o, hcontent, ho, -⟩⟩
    · exact Or.inl ⟨hpolicy, hthere⟩
    · refine Or.inr ⟨hfree, ⟨content, hcontent⟩, Store.holdsDirectory_eq_false_iff.2 ?_⟩
      intro old hold
      rw [Store.kind_eq_of_writtenOver ho hold, Store.kind_of_writtenOver ho]
  · rintro (⟨hpolicy, hthere⟩ | ⟨hfree, ⟨content, hcontent⟩, hmark⟩)
    · exact ⟨s, Or.inl ⟨hpolicy, hthere, rfl⟩⟩
    · obtain ⟨o, ho, -⟩ :=
        Store.exists_writtenOver now u content (Store.holdsDirectory_eq_false_iff.1 hmark)
      exact ⟨_, Or.inr ⟨hfree, content, o, hcontent, ho, rfl⟩⟩

/-- A file that has been put is reported, and the store is what the file makes of it. -/
theorem putIn_of_put (hw : w.faults = .none) (hu : f.uriOf path = .ok u)
    (h : f.put path source policy w = (.ok file, v)) :
    f.fileAt u false = .ok file ∧ v.faults = .none ∧
      f.putIn w.store w.clock.millis path source policy u = .ok v.store := by
  obtain ⟨reported, hfile⟩ := exists_fileAt_eq_ok_iff.2 (startsWith_root_of_uriOf hu)
  obtain ⟨served, hput⟩ := put_apply source policy hw hu hfile
  rw [h] at hput
  cases hin : f.putIn w.store w.clock.millis path source policy u with
  | error e =>
    rw [hin] at hput
    cases hput
  | ok t =>
    rw [hin] at hput
    cases hput
    exact ⟨hfile, hw, rfl⟩

end NamespaceFiles

/-- Where nothing is wrong: a file that has been put is answered as a file at the place that its
path leads to. What can be read there is what has been handed over if it goes over what was there,
or nothing was, and what was there before if that is left alone. Only where a directory is left
alone there is no file. If nothing may be there already, what is there stays and the file is
refused. -/
theorem put_keeps_promise (f : NamespaceFiles) (path : String) (source : Source)
    (policy : OnConflict) (u : Uri) (w : World) (hu : f.uriOf path = .ok u)
    (hw : w.faults = .none) :
    (∀ file v, f.put path source policy w = (.ok file, v) →
      file.uri = u ∧ file.directory = false ∧
      ((∃ o, v.store.find? f.area u = some o ∧ o.kind = .file) ↔
        ¬(policy = .skip ∧ w.store.holdsDirectory ⟨f.area, u⟩ = true)) ∧
      (policy = .overwrite ∨ w.store.contains f.area u = false →
        ∃ content, source.readAll = .ok content ∧ (f.read path v).1 = .ok content) ∧
      (policy = .skip → ∀ o, w.store.find? f.area u = some o →
        v.store = w.store ∧ (o.kind = .file → (f.read path v).1 = .ok o.content) ∧
          (o.kind = .directory →
            (f.read path v).1 = .error (.backend (.readDirectory u.text))))) ∧
    (policy = .error → w.store.contains f.area u = true →
      (f.put path source policy w).1 =
          .error (.alreadyExists (.namespaceFile path f.area.space.text)) ∧
        (f.put path source policy w).2.store = w.store) ∧
    ((∃ file v, f.put path source policy w = (.ok file, v)) ↔
      policy = .skip ∧ w.store.contains f.area u = true ∨
      (policy = .overwrite ∨ w.store.contains f.area u = false) ∧
        (∃ content, source.readAll = .ok content) ∧
          w.store.holdsDirectory ⟨f.area, u⟩ = false) := by
  obtain ⟨reported, hreported⟩ :=
    NamespaceFiles.exists_fileAt_eq_ok_iff.2 (NamespaceFiles.startsWith_root_of_uriOf hu)
  obtain ⟨served, happly⟩ :=
    NamespaceFiles.put_apply source policy hw hu hreported
  refine ⟨?_, ?_, ?_⟩
  · intro file v hput
    obtain ⟨hfile, hv, hin⟩ := NamespaceFiles.putIn_of_put hw hu hput
    refine ⟨NamespaceFiles.uri_of_fileAt hfile, NamespaceFiles.directory_of_fileAt hfile, ?_⟩
    have hread : (f.read path v).1 = v.store.read f.area u :=
      NamespaceFiles.read_of_uriOf hu (by rw [hv]; rfl)
    refine ⟨NamespaceFiles.exists_file_of_putIn hin, fun hfree => ?_, ?_⟩
    · rw [hread]
      exact NamespaceFiles.read_putIn hin hfree
    · rintro rfl o ho
      have hkept : v.store = w.store :=
        NamespaceFiles.eq_of_putIn_skip hin (Store.contains_iff.2 ⟨o, ho⟩)
      rw [hread, hkept, Store.read, ho]
      dsimp only
      refine ⟨rfl, fun hkind => ?_, fun hkind => ?_⟩
      · rw [hkind]
      · rw [hkind]
  · rintro rfl hthere
    have hin : f.putIn w.store w.clock.millis path source .error u =
        .error (.alreadyExists (.namespaceFile path f.area.space.text)) := by
      simp [NamespaceFiles.putIn, hthere]
    rw [happly, hin]
    exact ⟨rfl, rfl⟩
  · rw [← NamespaceFiles.exists_putIn_iff w.clock.millis path]
    constructor
    · rintro ⟨file, v, hput⟩
      obtain ⟨-, -, hin⟩ := NamespaceFiles.putIn_of_put hw hu hput
      exact ⟨v.store, hin⟩
    · rintro ⟨t, hin⟩
      rw [happly, hin]
      exact ⟨_, _, rfl⟩

/-- A report that is there is kept by a file that may stay away, and is found by its path. -/
theorem put_keeps_promise_of_report :
    let f := Client.daily.ownFiles
    let first : ByteArray := ⟨#[1]⟩
    let second : Source := .ofBytes ⟨#[2]⟩
    let start := World.start .noon2024
    let w := { start with store := (start.after
      [.ask (.files f (.put "report" (.ofBytes first) .overwrite))]).store }
    ∃ file v, f.put "report" second .skip w = (.ok file, v) ∧
      file.uri = .ofNames ["open", "_files", "report"] ∧ v.store = w.store ∧
        (f.read "report" v).1 = .ok first := by
  intro f first second start w
  have hu : f.uriOf "report" = .ok (.ofNames ["open", "_files", "report"]) := by decide +kernel
  have hreport : (w.store.find? f.area (.ofNames ["open", "_files", "report"])).map
      (fun o => (o.kind, o.content)) = some (.file, first) := by
    decide +kernel
  obtain ⟨o, ho, hobject⟩ := Option.map_eq_some_iff.1 hreport
  obtain ⟨hkind, hcontent⟩ := Prod.mk.inj hobject
  obtain ⟨hanswer, -, hdone⟩ := put_keeps_promise f "report" second .skip _ w hu rfl
  obtain ⟨file, v, hput⟩ := hdone.2 (Or.inl ⟨rfl, Store.contains_iff.2 ⟨o, ho⟩⟩)
  obtain ⟨huri, -, -, -, hskip⟩ := hanswer file v hput
  obtain ⟨hstore, hread, -⟩ := hskip rfl o ho
  exact ⟨file, v, hput, huri, hstore, hcontent ▸ hread hkind⟩

/-- A directory that has been made is left alone by a file that may stay away, and is answered as a
file. It cannot be read as one, is listed as a directory, and is in the way of a file that is to go
over what is there. -/
theorem skip_answers_directory :
    let f := Client.daily.ownFiles
    let docs := Uri.ofNames ["open", "_files", "docs"]
    let w := (World.start .noon2024).after [.ask (.files f (.makeDirectory "docs"))]
    let put := f.put "docs" (.ofBytes .empty) .skip w
    put.1.toOption.map (fun file => (file.uri, file.directory)) = some (docs, false) ∧
      put.2.store.holdsDirectory ⟨f.area, docs⟩ = true ∧
      (f.read "docs" put.2).1 = .error (.backend (.readDirectory docs.text)) ∧
      (f.all none true put.2).1.toOption.map (·.map fun file => (file.uri, file.directory)) =
        some [(docs, true)] ∧
      (f.put "docs" (.ofBytes .empty) .overwrite put.2).1 =
        .error (.backend (.writeDirectory docs.text)) := by
  decide +kernel

end Depot
