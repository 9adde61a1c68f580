import Depot.Proofs.Layout.CacheAddress

/-!
# The three places of a namespace

Below a namespace there are the files of runs, the entries of caches, and the files of the namespace
itself. Their ways start with a name and a word of the layout, or with a word of the layout alone,
and names are free to be such words. So the places overlap where a flow is called `_files`, and
where a task is called `executions` and a run of the flow `cache`, and nowhere else
(`areas_apart`). The same names decide whether the removal of a run takes an entry or a file of the
namespace with it.
-/

namespace Depot

namespace Context

variable {c d : Context} {u v : Uri} {name cacheId : String} {objectId : Option String}

/-- The names that lead to a file of a run from its namespace. -/
def runFileWay (c : Context) (name : String) : List String :=
  c.flow.text :: "executions" :: c.execution.text :: (c.scopeWay ++ Text.pieces '/' name)

theorem resolve_baseUri_way (hu : c.baseUri.resolve name = .ok u) :
    (∀ part ∈ c.space.segments ++ c.runFileWay name, IsPart part) ∧
      u = .ofNames (c.space.segments ++ c.runFileWay name) := by
  obtain ⟨hparts, rfl⟩ := resolve_baseUri_eq_ok_iff.1 hu
  have hway : c.scopeNames ++ Text.pieces '/' name = c.space.segments ++ c.runFileWay name := by
    simp only [scopeNames_eq, executionNames_eq, runFileWay, List.append_assoc, List.cons_append,
      List.nil_append]
  rw [← hway]
  refine ⟨fun part h => ?_, rfl⟩
  rcases List.mem_append.1 h with h | h
  · exact isPart_of_mem_scopeNames part h
  · exact hparts part h

/-- A file of a run is an entry only if the words of the layout are taken for names: `executions`
for that of the task, and `cache` for that of the run. -/
theorem runFileWay_eq_entry_way_iff :
    c.runFileWay name = (d.entry cacheId objectId).way ↔
      c.flow = d.flow ∧ d.task?.map Ident.text = some "executions" ∧ c.execution.text = "cache" ∧
        c.scopeWay ++ Text.pieces '/' name = cacheId :: (objectId.toList ++ ["cache.zip"]) := by
  simp only [runFileWay, CacheEntry.way, entry]
  cases d.task? with
  | none => simp
  | some task => simp [Ident.text_inj, eq_comm]

/-- The same words are what puts an entry below the files of a run. -/
theorem execution_prefix_entry_way_iff :
    [c.flow.text, "executions", c.execution.text] <+: (d.entry cacheId objectId).way ↔
      c.flow = d.flow ∧ d.task?.map Ident.text = some "executions" ∧
        c.execution.text = "cache" := by
  simp only [CacheEntry.way, entry]
  cases d.task? with
  | none => simp [List.cons_prefix_cons]
  | some task => simp [List.cons_prefix_cons, Ident.text_inj, eq_comm]

end Context

/-- The names that lead to a file of a namespace from the namespace. -/
def NamespaceFiles.fileWay (path : String) : List String :=
  "_files" :: Text.pieces '/' (trimPath path)

theorem NamespaceFiles.uriOf_way {f : NamespaceFiles} {path : String} {u : Uri}
    (hu : f.uriOf path = .ok u) :
    (∀ part ∈ f.area.space.segments ++ fileWay path, IsPart part) ∧
      u = .ofNames (f.area.space.segments ++ fileWay path) := by
  obtain ⟨hparts, rfl⟩ := uriOf_eq_ok_iff.1 hu
  refine ⟨fun part h => ?_, rfl⟩
  simp only [fileWay, List.mem_append, List.mem_cons] at h
  rcases h with h | rfl | h
  · exact Namespace.isPart_of_mem_segments h
  · decide
  · exact hparts part h

/-- The files of a namespace are at their root or below it. -/
theorem NamespaceFiles.startsWith_root_of_uriOf {f : NamespaceFiles} {path : String} {u : Uri}
    (hu : f.uriOf path = .ok u) : u.startsWith f.root = true := by
  obtain ⟨hparts, rfl⟩ := uriOf_way hu
  rw [root, Namespace.filesUri, Uri.startsWith_ofNames hparts Namespace.isPart_of_mem_filesNames,
    fileWay, List.prefix_append_right_inj]
  exact List.prefix_append ["_files"] _

namespace Client

/-- The removal of a run takes what is at its place and below, and nothing else. -/
theorem getElem?_removeExecution (e : Client) (w : World) (k : Store.Key) :
    (e.removeExecution w).2.store.objects[k]? =
      if w.faults.failing .deleteUnder = none ∧ k.isUnder e.area e.context.executionUri = true
      then none else w.store.objects[k]? := by
  simp only [removeExecution, Backend.removeUnder, Backend.front]
  cases hfaults : w.faults.failing .deleteUnder with
  | some failure => simp
  | none =>
    simp only [true_and]
    exact Store.getElem?_prune ..

/-- Whether something below a namespace is at the place of a run or below it. -/
theorem isUnder_executionUri_iff (e : Client) (area : Area) {way : List String}
    (hway : ∀ part ∈ area.space.segments ++ way, IsPart part) :
    Store.Key.isUnder ⟨area, .ofNames (area.space.segments ++ way)⟩ e.area
        e.context.executionUri = true ↔
      area = e.area ∧
        [e.context.flow.text, "executions", e.context.execution.text] <+: way := by
  rw [Store.isUnder_iff, Context.executionUri,
    Uri.startsWith_ofNames hway Context.isPart_of_mem_executionNames, Context.executionNames_eq]
  constructor
  · rintro ⟨rfl, hprefix⟩
    exact ⟨rfl, (List.prefix_append_right_inj _).1 hprefix⟩
  · rintro ⟨rfl, hprefix⟩
    exact ⟨rfl, (List.prefix_append_right_inj _).2 hprefix⟩

end Client

/-- A file of a run, an entry and a file of the namespace are at different places, and the removal
of a run takes files of the run only, except where the words of the layout are names: a flow that is
called `_files`, or a task `executions` beside a run `cache`. -/
theorem areas_apart (c d : Context) (f : NamespaceFiles) (hd : d.area = c.area)
    (hf : f.area = c.area) {name cacheId path : String} {objectId : Option String}
    {put cache file : Uri} (hput : c.baseUri.resolve name = .ok put)
    (hcache : d.cacheUri cacheId objectId = .ok cache) (hfile : f.uriOf path = .ok file) :
    let filePath := Text.pieces '/' (NamespaceFiles.trimPath path)
    (put = cache ↔ c.flow = d.flow ∧ d.task?.map Ident.text = some "executions" ∧
      c.execution.text = "cache" ∧
      c.scopeWay ++ Text.pieces '/' name = cacheId :: (objectId.toList ++ ["cache.zip"])) ∧
    (put = file ↔ c.flow.text = "_files" ∧
      "executions" :: c.execution.text :: (c.scopeWay ++ Text.pieces '/' name) = filePath) ∧
    (cache = file ↔ d.flow.text = "_files" ∧ (d.entry cacheId objectId).way.tail = filePath) ∧
    ∀ (e : Client) (w : World),
      let after := (e.removeExecution w).2.store
      after.objects[(⟨d.area, cache⟩ : Store.Key)]? =
        (if w.faults.failing .deleteUnder = none ∧ d.area = e.area ∧ e.context.flow = d.flow ∧
            d.task?.map Ident.text = some "executions" ∧ e.context.execution.text = "cache"
          then none else w.store.objects[(⟨d.area, cache⟩ : Store.Key)]?) ∧
      after.objects[(⟨f.area, file⟩ : Store.Key)]? =
        (if w.faults.failing .deleteUnder = none ∧ f.area = e.area ∧
            e.context.flow.text = "_files" ∧ ["executions", e.context.execution.text] <+: filePath
          then none else w.store.objects[(⟨f.area, file⟩ : Store.Key)]?) := by
  intro filePath
  obtain ⟨hp, rfl⟩ := Context.resolve_baseUri_way hput
  obtain ⟨hc, rfl⟩ := Context.cacheUri_way hcache
  obtain ⟨hn, rfl⟩ := NamespaceFiles.uriOf_way hfile
  have hds : d.space = c.space := congrArg Area.space hd
  have hfs : f.area.space = c.space := congrArg Area.space hf
  refine ⟨?_, ?_, ?_, fun e w => ⟨?_, ?_⟩⟩
  -- All ways start with the namespace, so that what is left to compare is the way from there.
  · rw [Uri.ofNames_inj hp hc, hds, List.append_cancel_left_eq]
    exact Context.runFileWay_eq_entry_way_iff
  · rw [Uri.ofNames_inj hp hn, hfs, List.append_cancel_left_eq]
    exact List.cons_eq_cons
  · rw [Uri.ofNames_inj hc hn, hfs, hds, List.append_cancel_left_eq]
    exact List.cons_eq_cons
  -- A removal goes by whether the way to the run is the beginning of the other way.
  · rw [Client.getElem?_removeExecution]
    have hunder := Client.isUnder_executionUri_iff e d.area hc
    rw [Context.execution_prefix_entry_way_iff] at hunder
    exact if_congr (and_congr_right fun _ => hunder) rfl rfl
  · rw [Client.getElem?_removeExecution]
    have hunder := Client.isUnder_executionUri_iff e f.area hn
    rw [NamespaceFiles.fileWay, List.cons_prefix_cons] at hunder
    exact if_congr (and_congr_right fun _ => hunder) rfl rfl

/-- Ordinary names keep the three places apart, and the removal of the run leaves the entry. -/
theorem areas_apart_of_ordinary_names :
    let c := Context.daily
    let f := Client.daily.ownFiles
    ∃ put cache file, c.baseUri.resolve "a" = .ok put ∧ c.cacheUri "deps" none = .ok cache ∧
      f.uriOf "a" = .ok file ∧ put ≠ cache ∧ put ≠ file ∧ cache ≠ file ∧
      ∀ w, (Client.daily.removeExecution w).2.store.objects[(⟨c.area, cache⟩ : Store.Key)]? =
        w.store.objects[(⟨c.area, cache⟩ : Store.Key)]? := by
  intro c f
  let deps : Name := ⟨"deps", by decide⟩
  have hput : c.baseUri.resolve "a" = .ok (.ofNames (c.scopeNames ++ Text.pieces '/' "a")) :=
    Context.resolve_baseUri_eq_ok_iff.2 ⟨by decide, rfl⟩
  have hcache : c.cacheUri "deps" none = .ok (.ofNames (c.cacheNames deps none)) :=
    Context.cacheUri_eq_ok_iff.2 ⟨deps, none, rfl, rfl, rfl⟩
  have hfile : f.uriOf "a" = .ok (.ofNames (c.space.segments ++
      "_files" :: Text.pieces '/' (NamespaceFiles.trimPath "a"))) :=
    NamespaceFiles.uriOf_eq_ok_iff.2 ⟨by decide, rfl⟩
  obtain ⟨hpc, hpf, hcf, hremoved⟩ := areas_apart c c f rfl rfl hput hcache hfile
  refine ⟨_, _, _, hput, hcache, hfile, ?_, ?_, ?_, fun w => ?_⟩
  · exact fun h => absurd (hpc.1 h).2.1 (by decide)
  · exact fun h => absurd (hpf.1 h).1 (by decide)
  · exact fun h => absurd (hcf.1 h).1 (by decide)
  · exact (hremoved .daily w).1.trans (if_neg fun h => absurd h.2.2.2.1 (by decide))

/-- In a flow that is called `_files` a file of a run is a file of the namespace, and a run that is
called `cache` takes an entry of the task `executions` with it. -/
theorem areas_overlap :
    (¬∀ (c : Context) (f : NamespaceFiles) (name path : String) (put file : Uri),
      f.area = c.area → c.baseUri.resolve name = .ok put → f.uriOf path = .ok file →
        put ≠ file) ∧
    ¬∀ (e : Client) (d : Context) (cacheId : String) (objectId : Option String) (cache : Uri)
      (w : World), d.area = e.area → d.cacheUri cacheId objectId = .ok cache →
        (e.removeExecution w).2.store.objects[(⟨d.area, cache⟩ : Store.Key)]? =
          w.store.objects[(⟨d.area, cache⟩ : Store.Key)]? := by
  constructor
  · intro h
    let c : Context := { Context.daily with flow := ⟨⟨"_files", by decide⟩⟩ }
    have hput : c.baseUri.resolve "a" = .ok (.ofNames (c.scopeNames ++ Text.pieces '/' "a")) :=
      Context.resolve_baseUri_eq_ok_iff.2 ⟨by decide, rfl⟩
    have hways : c.scopeNames ++ Text.pieces '/' "a" = c.space.segments ++ "_files" ::
        Text.pieces '/' (NamespaceFiles.trimPath "executions/exec-1/a") := by decide
    have hfile : (⟨c.area⟩ : NamespaceFiles).uriOf "executions/exec-1/a" =
        .ok (.ofNames (c.scopeNames ++ Text.pieces '/' "a")) :=
      NamespaceFiles.uriOf_eq_ok_iff.2 ⟨by decide, congrArg Uri.ofNames hways⟩
    exact h c ⟨c.area⟩ _ _ _ _ rfl hput hfile rfl
  · intro h
    let run : Context := { Context.daily with execution := ⟨⟨"cache", by decide⟩⟩ }
    let task : Context := { Context.daily with scope := .ofTask ⟨"executions", by decide⟩ }
    let e : Client := ⟨run, .ownOnly, .shared⟩
    let deps : Name := ⟨"deps", by decide⟩
    let cache := Uri.ofNames (task.cacheNames deps none)
    have hcache : task.cacheUri "deps" none = .ok cache :=
      Context.cacheUri_eq_ok_iff.2 ⟨deps, none, rfl, rfl, rfl⟩
    let w : World := { World.start .noon2024 with
      store := Store.empty.insert task.area cache ⟨.empty, .file, 0, 0⟩ }
    have hthere : w.store.objects[(⟨task.area, cache⟩ : Store.Key)]? =
        some ⟨.empty, .file, 0, 0⟩ :=
      (Store.getElem?_insert ..).trans (if_pos rfl)
    have hbelow : cache.startsWith run.executionUri = true :=
      (Uri.startsWith_ofNames Context.isPart_of_mem_cacheNames
        Context.isPart_of_mem_executionNames).2 (by decide)
    have hunder : Store.Key.isUnder ⟨task.area, cache⟩ e.area e.context.executionUri = true :=
      Store.isUnder_iff.2 ⟨rfl, hbelow⟩
    have hsame := h e task _ _ cache w rfl hcache
    rw [Client.getElem?_removeExecution, if_pos ⟨rfl, hunder⟩, hthere] at hsame
    cases hsame

end Depot
