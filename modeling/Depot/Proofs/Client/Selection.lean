import Depot.Proofs.Client.Paths
import Depot.Proofs.Glob.Tokens

/-!
# Files chosen by patterns

A filter of patterns chooses from the files that are listed, by their paths (`find_eq_filter`).
Without patterns it chooses all of them. The pattern `**` does not: what it stands for has no line
feed in it, and a path has one if a name has that is read in the reference of the file
(`lineFeed_mem_path_iff`). Names and paths that clients give are free of line feeds, but they may
write at references in which one is escaped. What `**` chooses in any store that clients can bring
about, and what is left without it, is told by `stars_select_lines`.
-/

namespace Depot

namespace Glob

/-- The pattern `**`. -/
def everything : Glob := ⟨"**", [.anything]⟩

theorem ofText_everything : ofText "**" = .ok everything := by
  decide +kernel

theorem isMatch_everything (path : String) :
    everything.isMatch path = true ↔ '\n' ∉ path.toList := by
  have hmatches : ∀ cs, Matches [.anything] cs ↔ '\n' ∉ cs := by
    intro cs
    constructor
    · rintro ⟨front, _, rfl, hfront, rfl⟩
      rwa [List.append_nil]
    · intro h
      exact ⟨cs, [], (List.append_nil cs).symm, h, rfl⟩
  rw [isMatch, everything, accepts_iff_matches, hmatches, Text.mem_trimStart_iff (by decide)]

end Glob

namespace NamespaceFiles

variable {f : NamespaceFiles} {e : Entry} {w : World} {includes excludes : List String}
  {filter : PathFilter} {files : List NamespaceFile}

/-- A search reports what the filter chooses of all files. -/
theorem find_eq_filter (hfilter : PathFilter.ofTexts includes excludes = .ok filter)
    (hall : (f.all none false w).1 = .ok files) :
    (f.find includes excludes w).1 = .ok (files.filter fun file => filter.accepts file.path) := by
  rw [find, Action.guarded_bind_of_ok _ w hfilter, Action.bind_apply]
  generalize f.all none false w = r at hall ⊢
  obtain ⟨answer, v⟩ := r
  cases hall
  rfl

theorem find_nil_nil (hall : (f.all none false w).1 = .ok files) :
    (f.find [] [] w).1 = .ok files := by
  have hfilter : PathFilter.ofTexts [] [] = .ok ⟨[], []⟩ := rfl
  rw [find_eq_filter hfilter hall]
  exact congrArg Except.ok (List.filter_eq_self.2 fun _ _ => rfl)

/-- One pattern to include chooses the files whose paths it matches. -/
theorem find_including {pattern : String} {g : Glob} (hg : Glob.ofText pattern = .ok g)
    (hall : (f.all none false w).1 = .ok files) :
    (f.find [pattern] [] w).1 = .ok (files.filter fun file => g.isMatch file.path) := by
  have hfilter : PathFilter.ofTexts [pattern] [] = .ok ⟨[g], []⟩ := by
    simp [PathFilter.ofTexts, hg]
  rw [find_eq_filter hfilter hall]
  refine congrArg Except.ok (List.filter_congr fun file _ => ?_)
  simp [PathFilter.accepts]

/-- `**` includes the files whose paths have no line feed. -/
theorem find_including_stars (hall : (f.all none false w).1 = .ok files) :
    (f.find ["**"] [] w).1 = .ok (files.filter fun file => '\n' ∉ file.path.toList) := by
  rw [find_including Glob.ofText_everything hall]
  refine congrArg Except.ok (List.filter_congr fun file _ => ?_)
  rw [Bool.eq_iff_iff, decide_eq_true_iff, ← Glob.isMatch_everything]

/-- `**` excludes the files whose paths have no line feed. -/
theorem find_excluding_stars (hall : (f.all none false w).1 = .ok files) :
    (f.find [] ["**"] w).1 = .ok (files.filter fun file => '\n' ∈ file.path.toList) := by
  have hfilter : PathFilter.ofTexts [] ["**"] = .ok ⟨[], [.everything]⟩ := by
    simp [PathFilter.ofTexts, Glob.ofText_everything]
  rw [find_eq_filter hfilter hall]
  refine congrArg Except.ok (List.filter_congr fun file _ => ?_)
  rw [Bool.eq_iff_iff, decide_eq_true_iff, ← not_iff_not (b := '\n' ∈ file.path.toList),
    ← Glob.isMatch_everything]
  simp [PathFilter.accepts]

/-- A path has a line feed if and only if one of the names has that are read below the root. -/
theorem lineFeed_mem_path_iff :
    '\n' ∈ (f.fileOf e).path.toList ↔
      ∃ name ∈ (e.uri.relativeTo f.root).getD [], '\n' ∈ name.toList := by
  have hpath : (f.fileOf e).path.toList =
      '/' :: Text.join '/' (((e.uri.relativeTo f.root).getD []).map String.toList) := by
    simp [fileOf, Text.glue]
  rw [hpath, List.mem_cons, Text.mem_join_iff (by decide)]
  simp

end NamespaceFiles

/-! ## What clients bring about -/

/-- No name that is read below a reference has a line feed. -/
def Uri.IsOneLine (base u : Uri) : Prop :=
  ∀ name ∈ (u.relativeTo base).getD [], '\n' ∉ name.toList

/-- Names that are put below the root are free of line feeds. -/
theorem NamespaceFiles.isOneLine_of_isNamed {f : NamespaceFiles} {u : Uri} (hu : u.IsNamed) :
    Uri.IsOneLine f.root u := by
  intro name hname hfeed
  cases hrelative : u.relativeTo f.root with
  | none =>
    rw [hrelative] at hname
    cases hname
  | some names =>
    obtain ⟨-, hpieces⟩ := Uri.eq_ofNames_of_relativeTo isPart_of_mem_rootNames hu hrelative
    rw [hrelative, Option.getD_some] at hname
    have hpart : IsPart name := (hpieces name (List.mem_append_right _ hname)).1
    exact absurd ((isPart_iff.1 hpart).2.2.2 '\n' hfeed).2 (by decide)

/-- Whatever clients have done since nothing was stored: without patterns a search reports all files
of a namespace. With `**` to include, it reports those whose paths have no line feed, and with `**`
to exclude, those whose paths have one. A path has one if and only if a name has that is read in
the reference below the root, so that `**` chooses all files and leaves none if no such name is
in the references that clients have been given to write at. -/
theorem stars_select_lines (w : World) (events : List World.Event) (f : NamespaceFiles)
    (v : World) (hstore : v.store = ({ w with store := .empty }.after events).store)
    (hfaults : v.faults = .none) :
    ∃ files, (f.all none false v).1 = .ok files ∧ (f.find [] [] v).1 = .ok files ∧
      (f.find ["**"] [] v).1 = .ok (files.filter fun file => '\n' ∉ file.path.toList) ∧
      (f.find [] ["**"] v).1 = .ok (files.filter fun file => '\n' ∈ file.path.toList) ∧
      (∀ file ∈ files, '\n' ∉ file.path.toList ↔ Uri.IsOneLine f.root file.uri) ∧
      ((∀ c source given u, .ask (.client c (.putAt source given)) ∈ events →
        Uri.letIn given = .ok u → c.area = f.area → Uri.IsOneLine f.root u) →
          (f.find ["**"] [] v).1 = .ok files ∧ (f.find [] ["**"] v).1 = .ok []) := by
  have hall := NamespaceFiles.all_files_eq (f := f) hfaults
  -- This is about what is listed, and the rest is about what has been written.
  have hlines : ∀ file ∈ (f.filesIn v.store).map f.fileOf,
      ('\n' ∉ file.path.toList ↔ Uri.IsOneLine f.root file.uri) := by
    intro file hfile
    obtain ⟨e, -, rfl⟩ := List.mem_map.1 hfile
    rw [NamespaceFiles.lineFeed_mem_path_iff]
    simp [Uri.IsOneLine, NamespaceFiles.fileOf]
  refine ⟨_, hall, NamespaceFiles.find_nil_nil hall, NamespaceFiles.find_including_stars hall,
    NamespaceFiles.find_excluding_stars hall, hlines, fun hgiven => ?_⟩
  -- All objects of the area have references without line feeds below the root.
  have hkeys : v.store.AllKeys fun k => k.area = f.area → Uri.IsOneLine f.root k.uri := by
    rw [hstore]
    exact World.allKeys_after_of_named rfl
      (fun _ _ hu _ => NamespaceFiles.isOneLine_of_isNamed hu) hgiven
  have hnone : ∀ file ∈ (f.filesIn v.store).map f.fileOf, '\n' ∉ file.path.toList := by
    intro file hfile
    obtain ⟨e, he, rfl⟩ := List.mem_map.1 hfile
    obtain ⟨o, ho, -⟩ := NamespaceFiles.exists_file_of_mem_filesIn he
    exact (hlines _ hfile).2 (hkeys.of_find? ho rfl)
  rw [NamespaceFiles.find_including_stars hall, NamespaceFiles.find_excluding_stars hall]
  refine ⟨congrArg Except.ok (List.filter_eq_self.2 ?_),
    congrArg Except.ok (List.filter_eq_nil_iff.2 ?_)⟩
  · exact fun file hfile => decide_eq_true (hnone file hfile)
  · exact fun file hfile => by simpa using hnone file hfile

/-- Two files that have been put by their paths are chosen, in a folder or not. -/
theorem stars_select_lines_of_docs :
    let f := Client.daily.ownFiles
    let put := fun path => World.Event.ask (.files f (.put path (.ofBytes .empty) .overwrite))
    let w := World.start .noon2024
    let events := [put "docs/50 %0A?.md", put "a"]
    let v := { w with store := ({ w with store := .empty }.after events).store }
    ∃ files, (f.all none false v).1 = .ok files ∧
      files.map NamespaceFile.path = ["/a", "/docs/50 %0A?.md"] ∧
      (f.find ["**"] [] v).1 = .ok files ∧ (f.find [] ["**"] v).1 = .ok [] := by
  intro f put w events v
  have hnogiven : ∀ c source given, .ask (.client c (.putAt source given)) ∉ events := by
    simp [events, put]
  obtain ⟨files, hall, -, -, -, -, hselect⟩ := stars_select_lines w events f v rfl rfl
  have hpaths : (f.all none false v).1.toOption.map (·.map NamespaceFile.path) =
      some ["/a", "/docs/50 %0A?.md"] := by
    decide +kernel
  rw [hall] at hpaths
  exact ⟨files, hall, Option.some.inj hpaths,
    hselect fun c source given _ hgiven => absurd hgiven (hnogiven c source given)⟩

/-- A client may write at a reference in which a line feed is escaped. `**` does not choose the
file, and leaves it. -/
theorem stars_miss_line_feed :
    let c := Client.daily
    let f := c.ownFiles
    let put := fun given => World.Event.ask (.client c (.putAt (.ofBytes .empty) (some given)))
    let w := World.start .noon2024
    let v := { w with store := (w.after [put "kestra:///open/_files/a%0Ab"]).store }
    ∃ file, file.path = "/a\nb" ∧ (f.all none false v).1 = .ok [file] ∧
      (f.find [] [] v).1 = .ok [file] ∧ (f.find ["**"] [] v).1 = .ok [] ∧
      (f.find [] ["**"] v).1 = .ok [file] := by
  intro c f put w v
  have hpaths : (f.all none false v).1.toOption.map (·.map NamespaceFile.path) =
      some ["/a\nb"] := by
    decide +kernel
  cases hall : (f.all none false v).1 with
  | error e =>
    rw [hall] at hpaths
    cases hpaths
  | ok files =>
    rw [hall] at hpaths
    obtain ⟨file, rfl, hpath⟩ := List.map_eq_singleton_iff.1 (Option.some.inj hpaths)
    have hfeed : '\n' ∈ file.path.toList := by
      rw [hpath]
      decide +kernel
    refine ⟨file, hpath, rfl, NamespaceFiles.find_nil_nil hall, ?_, ?_⟩
    · rw [NamespaceFiles.find_including_stars hall]
      simp [hfeed]
    · rw [NamespaceFiles.find_excluding_stars hall]
      simp [hfeed]

end Depot
