import Depot.Proofs.Client.FileSteps
import Depot.Proofs.Store.Leaves

/-!
# Files above other files

The files of a namespace are not a tree: a place is looked at for what is there already, and never
for what is above or below it. A file may be put below another file, or above what is stored.

A request breaks the tree if and only if it makes something new that clashes with what is stored
(`NamespaceFiles.Step.leafFiles`, `not_leafFiles_of_clashes`). What a place holds stays of its kind
until it is removed (`NamespaceFiles.Step.exists_kind`).
-/

namespace Depot

/-- What is asked for makes something new that goes below a file, or a new file that goes above what
is stored. -/
def Ask.Clashes (s : Store) : Ask → Prop
  | .files f (.put path source _) => ∃ u content, f.uriOf path = .ok u ∧
      source.readAll = .ok content ∧ s.find? f.area u = none ∧ s.Clashes ⟨f.area, u⟩ .file
  | .files f (.makeDirectory path) => ∃ u, f.uriOf path = .ok u ∧
      s.find? f.area u = none ∧ s.Clashes ⟨f.area, u⟩ .directory
  | _ => False

namespace NamespaceFiles

variable {f : NamespaceFiles} {s t : Store} {r : Request} {v : World}

namespace Step

/-- A request that makes nothing that clashes puts nothing below a file. -/
theorem leafFiles (h : f.Step s r t) (hs : s.LeafFiles) (hfree : ¬(Ask.files f r).Clashes s) :
    t.LeafFiles := by
  cases h with
  | stay => exact hs
  | put hu hcontent ho =>
    refine (Store.leafFiles_insert_iff fun _ => Store.kind_eq_of_writtenOver ho).2 ⟨hs, ?_⟩
    rw [Store.kind_of_writtenOver ho]
    exact fun hnew hclash => hfree ⟨_, _, hu, hcontent, hnew, hclash⟩
  | mark now hu hnew =>
    refine (Store.leafFiles_insert_iff (by simp [hnew])).2 ⟨hs, ?_⟩
    exact fun _ hclash => hfree ⟨_, hu, hnew, hclash⟩
  | remove hu => exact Store.leafFiles_remove hs _ _

/-- What is stored stays of its kind until it is removed. -/
theorem exists_kind (h : f.Step s r t) (hr : ∀ path, r ≠ .remove path) {k : Store.Key}
    {o : Store.Object} (ho : s.objects[k]? = some o) :
    ∃ p, t.objects[k]? = some p ∧ p.kind = o.kind := by
  cases h with
  | stay => exact ⟨o, ho, rfl⟩
  | put hu hcontent hp =>
    exact Store.exists_kind_insert (fun _ => Store.kind_eq_of_writtenOver hp) ho
  | mark now hu hnew => exact Store.exists_kind_insert (by simp [hnew]) ho
  | remove hu => exact absurd rfl (hr _)

end Step

/-- A request that makes something that clashes puts it below a file, or is above what is stored. -/
theorem not_leafFiles_of_clashes (hfaults : v.faults = .none)
    (hclash : (Ask.files f r).Clashes v.store) : ¬(r.perform f v).2.store.LeafFiles := by
  have hnew : ∀ {u : Uri} {o : Store.Object}, v.store.find? f.area u = none →
      v.store.Clashes ⟨f.area, u⟩ o.kind → ¬(v.store.insert f.area u o).LeafFiles := by
    intro u o hfree hc hleaf
    exact ((Store.leafFiles_insert_iff (by simp [hfree])).1 hleaf).2 hfree hc
  cases r with
  | put path source policy =>
    obtain ⟨u, content, hu, hcontent, hfree, hc⟩ := hclash
    obtain ⟨file, hfile⟩ := exists_fileAt_eq_ok_iff.2 (startsWith_root_of_uriOf hu)
    obtain ⟨served, hput⟩ := put_apply source policy hfaults hu hfile
    rw [putIn_of_free hfree hcontent] at hput
    rw [Request.perform, Action.map_apply, hput]
    exact hnew hfree hc
  | makeDirectory path =>
    obtain ⟨u, hu, hfree, hc⟩ := hclash
    have hmade : (Request.perform f (.makeDirectory path) v).2.store =
        v.store.insert f.area u ⟨.empty, .directory, v.clock.millis, v.clock.millis⟩ := by
      rw [Request.perform, Action.map_apply, makeDirectory, Action.guarded_bind_of_ok _ v hu,
        Action.Looks.store_bind fun _ => .pure _,
        Backend.makeDirectory_apply (by rw [hfaults]; rfl), hfree]
      rfl
    rw [hmade]
    exact hnew hfree hc
  | _ => exact hclash.elim

end NamespaceFiles

/-- Where all objects are files of namespaces, no file has anything below it if and only if no
listing shows anything below a file. -/
theorem Store.InFiles.leafFiles_iff {s : Store} (hs : s.InFiles) (w : World) :
    s.LeafFiles ↔
      ∀ (f : NamespaceFiles) path (v : World) files, v.store = s → v.faults = .none →
        (f.all path true v).1 = .ok files →
          ∀ d ∈ files, d.directory = false → ∀ e ∈ files, ¬e.uri.IsBelow d.uri := by
  constructor
  · rintro hleaf f path v files rfl hfaults hall
    cases hstart : f.startOf path with
    | error e =>
      rw [NamespaceFiles.all, Action.guarded_bind_of_error _ v hstart] at hall
      cases hall
    | ok start =>
      rw [NamespaceFiles.all_eq_map (hs.namedIn _) hstart hfaults] at hall
      obtain rfl := Except.ok.inj hall
      obtain ⟨names, hne, hnames, rfl⟩ := NamespaceFiles.exists_names_of_startOf hstart
      intro _ hlower hfile _ hupper
      obtain ⟨d, hd, rfl⟩ := List.mem_map.1 hlower
      obtain ⟨e, he, rfl⟩ := List.mem_map.1 hupper
      exact Store.not_isBelow_of_mem_list (hs.namedIn _) hne hnames hleaf hd hfile he
  · rintro h j k o p hj hfile hk ⟨harea, hbelow⟩
    let f : NamespaceFiles := ⟨j.area⟩
    have hstart : f.startOf none = .ok f.root := rfl
    have hlisted : ∀ {i : Key} {q : Object}, i.area = j.area → s.objects[i]? = some q →
        f.fileOf ⟨i.uri, q.attributes i.uri⟩ ∈ (s.list f.area f.root).map f.fileOf := by
      intro i q hi hq
      have hroot := (hs i (by simp [hq])).2
      rw [hi] at hroot
      obtain ⟨names, hne, hnames, hbase⟩ := NamespaceFiles.exists_names_of_startOf hstart
      rw [hbase]
      refine List.mem_map_of_mem (Store.mem_list_of_find? (hs.namedIn _) hne hnames ?_ ?_)
      · show s.objects[(⟨j.area, i.uri⟩ : Key)]? = some q
        rw [← hi, hq]
      · rw [← hbase]
        exact hroot
    have hall := NamespaceFiles.all_eq_map (w := { w with store := s, faults := .none })
      (hs.namedIn f.area) hstart rfl
    refine h f none _ _ rfl rfl hall _ (hlisted rfl hj) ?_ _ (hlisted harea hk) hbelow
    exact Object.isDirectory_attributes_eq_false_iff.2 hfile

namespace World

variable {w : World} {events : List Event}

/-- Events with nothing that clashes put nothing below a file. -/
theorem leafFiles_after_of_free (hw : w.store.LeafFiles) (hevents : FilesOnly events)
    (hfree : ∀ before a after, events = before ++ .ask a :: after →
      ¬a.Clashes (w.after before).store) :
    (w.after events).store.LeafFiles := by
  induction events generalizing w with
  | nil => exact hw
  | cons event events ih =>
    refine ih (w := w.meet event) ?_ (fun c r h => hevents c r (List.mem_cons_of_mem _ h)) ?_
    · cases event with
      | ask a =>
        cases a with
        | client c r => exact absurd List.mem_cons_self (hevents c r)
        | files f r => exact (f.step_perform r w).leafFiles hw (hfree [] _ events rfl)
      | setClock time => exact hw
      | setWall time => exact hw
      | place path entry => exact hw
    · intro before a after hsplit
      exact hfree (event :: before) a after (by rw [hsplit, List.cons_append])

/-- Whatever the files of namespaces have been asked for since nothing was stored: no file has
anything below it as long as nothing is made that clashes with what is stored, and to make such a
thing is the only way to put something below a file. Where no file has anything below it, and only
there, no listing shows anything below a file. What a request does not remove stays of its kind. -/
theorem leafFiles_after (w : World) (events : List Event) (hevents : FilesOnly events) :
    let s := fun events => ({ w with store := .empty }.after events).store
    ((∀ before a after, events = before ++ .ask a :: after → ¬a.Clashes (s before)) →
      (s events).LeafFiles) ∧
    (∀ (f : NamespaceFiles) (r : NamespaceFiles.Request) (v : World), v.store = s events →
      v.faults = .none → (s events).LeafFiles →
        ((r.perform f v).2.store.LeafFiles ↔ ¬(Ask.files f r).Clashes (s events))) ∧
    ((s events).LeafFiles ↔
      ∀ (f : NamespaceFiles) path (v : World) files, v.store = s events → v.faults = .none →
        (f.all path true v).1 = .ok files →
          ∀ d ∈ files, d.directory = false → ∀ e ∈ files, ¬e.uri.IsBelow d.uri) ∧
    ∀ (f : NamespaceFiles) (r : NamespaceFiles.Request) (v : World), v.store = s events →
      (∀ path, r ≠ .remove path) →
        ∀ (k : Store.Key) (o : Store.Object), (s events).objects[k]? = some o →
          ∃ p, (r.perform f v).2.store.objects[k]? = some p ∧ p.kind = o.kind := by
  intro s
  refine ⟨leafFiles_after_of_free Store.leafFiles_empty hevents, ?_,
    (inFiles_after rfl hevents).leafFiles_iff w, ?_⟩
  · intro f r v hv hfaults hleaf
    rw [← hv] at hleaf ⊢
    constructor
    · intro hafter hclash
      exact NamespaceFiles.not_leafFiles_of_clashes hfaults hclash hafter
    · exact (f.step_perform r v).leafFiles hleaf
  · intro f r v hv hr k o ho
    rw [← hv] at ho
    exact (f.step_perform r v).exists_kind hr ho

/-- A report leaves no file above anything, and a file that is put below the report does. -/
theorem leafFiles_after_of_report :
    let f := Client.daily.ownFiles
    let put := fun path => NamespaceFiles.Request.put path (.ofBytes .empty) .overwrite
    let w := start .noon2024
    let s := ({ w with store := .empty }.after [.ask (.files f (put "report"))]).store
    s.LeafFiles ∧ ¬((put "report/page").perform f { w with store := s }).2.store.LeafFiles := by
  intro f put w s
  have hevents : FilesOnly [.ask (.files f (put "report"))] := by simp [FilesOnly]
  obtain ⟨hfree, hbreaks, -, -⟩ := leafFiles_after w _ hevents
  have hleaf : s.LeafFiles := by
    refine hfree fun before a after hsplit => ?_
    cases before with
    | nil =>
      obtain ⟨rfl, -⟩ := by simpa using hsplit
      -- Nothing is stored that the report could clash with.
      rintro ⟨u, content, -, -, -, ⟨j, o, hj, -⟩ | ⟨-, j, o, hj, -⟩⟩
      · exact nomatch hj
      · exact nomatch hj
    | cons event before => simp at hsplit
  refine ⟨hleaf, fun hafter => ?_⟩
  refine (hbreaks f (put "report/page") { w with store := s } rfl rfl hleaf).1 hafter ?_
  have hreport : (s.find? f.area (.ofNames ["open", "_files", "report"])).map Store.Object.kind =
      some .file := by
    decide +kernel
  obtain ⟨o, ho, hkind⟩ := Option.map_eq_some_iff.1 hreport
  refine ⟨.ofNames ["open", "_files", "report", "page"], .empty, ?_, rfl, ?_,
    Or.inl ⟨_, o, ho, hkind, rfl, ?_⟩⟩
  · decide +kernel
  · decide +kernel
  · decide +kernel

/-- A file is put below another one, and both are listed. -/
theorem file_below_file :
    let f := Client.daily.ownFiles
    let put := fun path => Event.ask (.files f (.put path (.ofBytes .empty) .error))
    let w := start .noon2024
    let v := { w with store := (w.after [put "a", put "a/b"]).store }
    ¬v.store.LeafFiles ∧ ∃ files, (f.all none true v).1 = .ok files ∧
      ∃ d ∈ files, d.directory = false ∧ ∃ e ∈ files, e.uri.IsBelow d.uri := by
  intro f put w v
  have hlisted : (f.all none true v).1.toOption.map
      (·.map fun file => (file.uri, file.directory)) =
        some [(.ofNames ["open", "_files", "a"], false),
          (.ofNames ["open", "_files", "a", "b"], false)] := by
    decide +kernel
  have hbelow : (Uri.ofNames ["open", "_files", "a", "b"]).IsBelow
      (.ofNames ["open", "_files", "a"]) := by
    decide +kernel
  have hfiles : v.store.InFiles := inFiles_after rfl (by simp [FilesOnly, put])
  cases hall : (f.all none true v).1 with
  | error e =>
    rw [hall] at hlisted
    cases hlisted
  | ok files =>
    rw [hall] at hlisted
    obtain ⟨d, rest, rfl, hd, hrest⟩ := List.map_eq_cons_iff.1 (Option.some.inj hlisted)
    obtain ⟨e, rfl, he⟩ := List.map_eq_singleton_iff.1 hrest
    obtain ⟨hduri, hdfile⟩ := Prod.mk.inj hd
    rw [← hduri, ← (Prod.mk.inj he).1] at hbelow
    have hmem : d ∈ [d, e] ∧ e ∈ [d, e] := by simp
    refine ⟨fun hleaf => ?_, [d, e], rfl, d, hmem.1, hdfile, e, hmem.2, hbelow⟩
    exact (hfiles.leafFiles_iff w).1 hleaf f none v _ rfl rfl hall d hmem.1 hdfile e hmem.2 hbelow

end World

end Depot
