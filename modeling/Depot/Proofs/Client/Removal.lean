import Depot.Proofs.Client.FileSteps

/-!
# Removing what is listed

A listing shows more than there is to remove: a directory that only leads to objects is none itself,
so that nothing is found under its path and nothing is removed there. And a removal takes what is
below a directory that has been made, and below nothing else.

`Store.exists_mem_list_startsWith_iff` says when a place is still listed, or anything below it, and
`Store.exists_left_iff` what a removal leaves there; paths tell the same as references
(`NamespaceFiles.isWithin_fileOf_iff`).
-/

namespace Depot

/-! ## Paths of what is listed -/

/-- A file is reported by the path of another one, or by a path that goes on from it behind a
slash. -/
def NamespaceFile.IsWithin (file dir : NamespaceFile) : Prop :=
  file.path = dir.path ∨ ∃ rest, file.path = dir.path ++ "/" ++ rest

namespace NamespaceFiles

variable {f : NamespaceFiles} {s : Store} {w : World} {d e : Entry}

/-- One path goes on from another one as the references do. -/
theorem isWithin_fileOf_iff (hd : d.uri.IsBelow f.root) (hdnamed : d.uri.IsNamed)
    (he : e.uri.IsBelow f.root) (henamed : e.uri.IsNamed) :
    (f.fileOf e).IsWithin (f.fileOf d) ↔ e.uri.startsWith d.uri = true := by
  obtain ⟨lower, hlne, hlpieces, hduri, hdpath⟩ := exists_names_of_isBelow_root hd hdnamed
  obtain ⟨upper, hune, hupieces, heuri, hepath⟩ := exists_names_of_isBelow_root he henamed
  have hlower : ∀ name ∈ f.rootNames ++ lower, IsPart name :=
    fun name h => (isPiece_of_mem_rootNames_append hlpieces name h).1
  have hupper : ∀ name ∈ f.rootNames ++ upper, IsPart name :=
    fun name h => (isPiece_of_mem_rootNames_append hupieces name h).1
  have hlglue := Text.pieces_glue hlne fun name h => (hlpieces name h).2
  have huglue := Text.pieces_glue hune fun name h => (hupieces name h).2
  rw [hduri, heuri, Uri.startsWith_ofNames hupper hlower, List.prefix_append_right_inj, ← hlglue,
    ← huglue, Text.pieces_isPrefix_pieces_iff, NamespaceFile.IsWithin, hdpath, hepath]
  have hslash : ("/" : String).toList = ['/'] := rfl
  simp only [← String.toList_inj, String.toList_append, hslash, List.cons_append,
    List.nil_append, List.append_assoc, List.cons.injEq, true_and]
  refine or_congr_right ⟨?_, ?_⟩
  · rintro ⟨rest, h⟩
    exact ⟨rest.toList, h⟩
  · rintro ⟨rest, h⟩
    exact ⟨String.ofList rest, by rw [h, String.toList_ofList]⟩

/-- What a path leads to is found if it is an object. -/
theorem contains_of_uriOf {path : String} {u : Uri} (hu : f.uriOf path = .ok u)
    (hfaults : w.faults = .none) :
    (f.contains path w).1 = .ok (w.store.contains f.area u) := by
  rw [contains, Action.guarded_bind_of_ok _ w hu, Backend.contains_apply (by rw [hfaults]; rfl)]

/-- What a path leads to is removed if it is an object. -/
theorem remove_of_uriOf {path : String} {u : Uri} (hu : f.uriOf path = .ok u)
    (hfaults : w.faults = .none) :
    f.remove path w =
      (.ok (w.store.contains f.area u), w.serving (w.store.remove f.area u).2) := by
  rw [remove, Action.guarded_bind_of_ok _ w hu, Backend.remove_apply (by rw [hfaults]; rfl)]

theorem isBelow_and_isNamed_of_mem_list (hs : s.NamedIn f.area) (he : e ∈ s.list f.area f.root) :
    e.uri.IsBelow f.root ∧ e.uri.IsNamed :=
  ⟨((Store.mem_list_iff_of_named hs rootNames_ne_nil isPart_of_mem_rootNames).1 he).1,
    Store.isNamed_of_mem_list hs rootNames_ne_nil isPart_of_mem_rootNames he⟩

/-- Something is reported at a path or below it if and only if an object is there. -/
theorem exists_isWithin_iff (hs : s.NamedIn f.area) (hd : d.uri.IsBelow f.root)
    (hdnamed : d.uri.IsNamed) :
    (∃ other ∈ (s.list f.area f.root).map f.fileOf, other.IsWithin (f.fileOf d)) ↔
      ∃ u, s.contains f.area u = true ∧ u.startsWith d.uri = true := by
  rw [← Store.exists_mem_list_startsWith_iff hs rootNames_ne_nil isPart_of_mem_rootNames hd]
  simp only [List.mem_map, exists_exists_and_eq_and]
  refine exists_congr fun e => and_congr_right fun he => ?_
  obtain ⟨hebelow, henamed⟩ := isBelow_and_isNamed_of_mem_list hs he
  exact isWithin_fileOf_iff hd hdnamed hebelow henamed

/-- A file is listed as before when something else has been removed. -/
theorem mem_list_remove (hs : s.NamedIn f.area) (he : e ∈ s.list f.area f.root)
    (hkind : e.attributes.isDirectory = false) {u : Uri} (hout : e.uri.startsWith u = false) :
    e ∈ (s.remove f.area u).2.list f.area f.root := by
  obtain ⟨-, o, ho, hattributes⟩ := Store.exists_object_of_file he hkind
  rw [← Store.find?_remove_of_not_startsWith hout] at ho
  have hlisted := Store.mem_list_of_find? (hs.remove u) rootNames_ne_nil isPart_of_mem_rootNames
    ho (isBelow_and_isNamed_of_mem_list hs he).1
  rwa [← hattributes] at hlisted

end NamespaceFiles

/-- Whatever the files of namespaces have been asked for since nothing was stored: of all that is
listed with its directories, what is an object is found by its path and removed by it, as every file
is, and where no object is nothing changes. After that the files that are neither at the path nor
below it are listed as before, and something at the path or below it still is if the path was not
that of a directory that had been made and something was below it. -/
theorem removal_of_listed (w : World) (events : List World.Event)
    (hevents : World.FilesOnly events) (f : NamespaceFiles) (v : World)
    (hstore : v.store = ({ w with store := .empty }.after events).store)
    (hfaults : v.faults = .none) :
    ∃ files, (f.all none true v).1 = .ok files ∧ ∀ file ∈ files,
      let after := (f.remove file.path v).2
      (f.contains file.path v).1 = .ok (v.store.contains f.area file.uri) ∧
      (f.remove file.path v).1 = .ok (v.store.contains f.area file.uri) ∧
      (file.directory = false → v.store.contains f.area file.uri = true) ∧
      (v.store.contains f.area file.uri = false → after.store = v.store) ∧
      ∃ left, (f.all none true after).1 = .ok left ∧
        (∀ other ∈ files, other.directory = false → ¬other.IsWithin file → other ∈ left) ∧
        ((∃ other ∈ left, other.IsWithin file) ↔
          v.store.holdsDirectory ⟨f.area, file.uri⟩ = false ∧
            (v.store.objectsUnder f.area file.uri).Nonempty) := by
  have hs : v.store.NamedIn f.area := by
    rw [hstore]
    exact (World.inFiles_after rfl hevents).namedIn f.area
  refine ⟨_, NamespaceFiles.all_eq_map hs rfl hfaults, fun file hfile => ?_⟩
  obtain ⟨d, hd, rfl⟩ := List.mem_map.1 hfile
  obtain ⟨hbelow, hnamed⟩ := NamespaceFiles.isBelow_and_isNamed_of_mem_list hs hd
  have hu : f.uriOf (f.fileOf d).path = .ok d.uri :=
    (NamespaceFiles.uriOf_path_iff hbelow).2 hnamed
  have hremoved := NamespaceFiles.remove_of_uriOf hu hfaults
  intro after
  have hstored : after.store = (v.store.remove f.area d.uri).2 :=
    congrArg (fun r => r.2.store) hremoved
  have hfaultless : after.faults = .none := (congrArg (fun r => r.2.faults) hremoved).trans hfaults
  have hleft : after.store.NamedIn f.area := by
    rw [hstored]
    exact hs.remove d.uri
  refine ⟨NamespaceFiles.contains_of_uriOf hu hfaults, congrArg Prod.fst hremoved, ?_, ?_, _,
    NamespaceFiles.all_eq_map hleft rfl hfaultless, ?_, ?_⟩
  · intro hkind
    obtain ⟨o, ho, -⟩ := Store.exists_file_of_mem_list hd hkind
    exact Store.contains_iff.2 ⟨o, ho⟩
  · intro hnone
    rw [hstored]
    exact Store.remove_of_not_contains hnone
  · intro other hother hkind hout
    obtain ⟨e, he, rfl⟩ := List.mem_map.1 hother
    obtain ⟨hebelow, henamed⟩ := NamespaceFiles.isBelow_and_isNamed_of_mem_list hs he
    rw [NamespaceFiles.isWithin_fileOf_iff hbelow hnamed hebelow henamed,
      Bool.not_eq_true] at hout
    rw [hstored]
    exact List.mem_map_of_mem (NamespaceFiles.mem_list_remove hs he hkind hout)
  · rw [NamespaceFiles.exists_isWithin_iff hleft hbelow hnamed, hstored]
    exact Store.exists_left_iff hs hnamed

/-- A directory that has been made is removed with the file in it, and a file beside it stays that
is reported by a path that begins with the same letters. -/
theorem removal_of_listed_docs :
    let f := Client.daily.ownFiles
    let put := fun path => World.Event.ask (.files f (.put path (.ofBytes .empty) .overwrite))
    let w := World.start .noon2024
    let v := { w with store := ({ w with store := .empty }.after
      [.ask (.files f (.makeDirectory "docs")), put "docs/a.md", put "docs.md"]).store }
    ∃ docs beside left, docs.path = "/docs" ∧ beside.path = "/docs.md" ∧
      (f.contains docs.path v).1 = .ok true ∧ (f.remove docs.path v).1 = .ok true ∧
      (f.all none true (f.remove docs.path v).2).1 = .ok left ∧ beside ∈ left ∧
      ∀ other ∈ left, ¬other.IsWithin docs := by
  intro f put w v
  have hevents : World.FilesOnly
      [.ask (.files f (.makeDirectory "docs")), put "docs/a.md", put "docs.md"] := by
    simp [World.FilesOnly, put]
  obtain ⟨files, hall, hlisted⟩ := removal_of_listed w _ hevents f v rfl rfl
  have hfiles : (f.all none true v).1.toOption.map
      (·.map fun file => (file.path, file.uri, file.directory)) = some
        [("/docs", .ofNames ["open", "_files", "docs"], true),
          ("/docs.md", .ofNames ["open", "_files", "docs.md"], false),
          ("/docs/a.md", .ofNames ["open", "_files", "docs", "a.md"], false)] := by
    decide +kernel
  rw [hall] at hfiles
  obtain ⟨docs, rest, rfl, hdocs, hrest⟩ := List.map_eq_cons_iff.1 (Option.some.inj hfiles)
  obtain ⟨beside, rest, rfl, hbeside, -⟩ := List.map_eq_cons_iff.1 hrest
  simp only [Prod.mk.injEq] at hdocs hbeside
  obtain ⟨hcontains, hremove, -, -, left, hleft, hkept, hwithin⟩ := hlisted docs (by simp)
  have hstored : v.store.contains f.area (.ofNames ["open", "_files", "docs"]) = true := by
    decide +kernel
  have hmark : v.store.holdsDirectory ⟨f.area, .ofNames ["open", "_files", "docs"]⟩ = true := by
    decide +kernel
  rw [← hdocs.2.1] at hstored hmark
  rw [hstored] at hcontains hremove
  refine ⟨docs, beside, left, hdocs.1, hbeside.1, hcontains, hremove, hleft, ?_, ?_⟩
  · refine hkept beside (by simp) hbeside.2.2 ?_
    rw [NamespaceFile.IsWithin, hdocs.1, hbeside.1]
    rintro (h | ⟨rest, h⟩)
    · exact absurd h (by decide)
    · simpa using congrArg String.toList h
  · intro other hother hin
    obtain ⟨hnone, -⟩ := hwithin.1 ⟨other, hother, hin⟩
    rw [hmark] at hnone
    cases hnone

/-- A directory is listed because a file is in it, and there is nothing to find or to remove. And
when a file has been removed that another one was below, its path is still listed, as that of a
directory. -/
theorem listed_and_not_removed :
    let f := Client.daily.ownFiles
    let put := fun path => World.Event.ask (.files f (.put path (.ofBytes .empty) .overwrite))
    let listed := fun w => (f.all none true w).1.toOption.map fun files =>
      files.map fun file => (file.path, file.directory)
    let v := (World.start .noon2024).after [put "docs/a.md"]
    let u := (World.start .noon2024).after [put "a", put "a/b"]
    (listed v = some [("/docs", true), ("/docs/a.md", false)] ∧
      (f.contains "/docs" v).1.toOption = some false ∧
      (f.remove "/docs" v).1.toOption = some false ∧
      listed (f.remove "/docs" v).2 = listed v) ∧
    listed u = some [("/a", false), ("/a/b", false)] ∧
      (f.remove "/a" u).1.toOption = some true ∧
      listed (f.remove "/a" u).2 = some [("/a", true), ("/a/b", false)] := by
  decide +kernel

end Depot
