import Depot.Proofs.Client.RoundTrip
import Depot.Proofs.Client.Selection
import Depot.Proofs.Glob.Itself

/-!
# Files found by their own paths

A path is a pattern like any other text, whatever stars, question marks and line feeds are in it,
and a pattern matches the text that it was read from. Every stored file of a namespace is listed,
so that a search for its path finds it (`paths_select_themselves`). It may find others as well.
-/

namespace Depot

/-- A stored file is among all files, as it is reported. -/
theorem NamespaceFiles.fileOf_mem_filesIn {f : NamespaceFiles} {s : Store} {uri : Uri}
    {o : Store.Object} (ho : s.find? f.area uri = some o) (hkind : o.kind = .file)
    (hbelow : uri.IsBelow f.root) :
    f.fileOf ⟨uri, o.attributes uri⟩ ∈ (f.filesIn s).map f.fileOf :=
  List.mem_map_of_mem (mem_filesIn_iff.2 ⟨hbelow, o, ho, hkind, rfl⟩)

/-- Every path that is not too long for a pattern can be read as one, and matches itself. So
wherever a file is stored below the root of a namespace, and whatever else is stored, it is reported
by a path, and the search for this path finds it. -/
theorem paths_select_themselves :
    (∀ path : String, Glob.fits (Glob.tokensOf (Text.trimStart '/' path.toList)) = true →
      ∃ g, Glob.ofText path = .ok g ∧ g.isMatch path = true) ∧
    ∀ (f : NamespaceFiles) (w : World) (uri : Uri) (o : Store.Object), w.faults = .none →
      w.store.find? f.area uri = some o → o.kind = .file → uri.IsBelow f.root →
      ∃ file, f.fileAt uri false = .ok file ∧
        (Glob.fits (Glob.tokensOf (Text.trimStart '/' file.path.toList)) = true →
          ∃ files, (f.find [file.path] [] w).1 = .ok files ∧ file ∈ files) := by
  have hself : ∀ path : String,
      Glob.fits (Glob.tokensOf (Text.trimStart '/' path.toList)) = true →
        ∃ g, Glob.ofText path = .ok g ∧ g.isMatch path = true := by
    intro path hfits
    have hread : Glob.ofText path = .ok ⟨path, _⟩ := if_pos hfits
    exact ⟨_, hread, Glob.isMatch_self hread⟩
  refine ⟨hself, fun f w uri o hfaults ho hkind hbelow => ?_⟩
  refine ⟨_, NamespaceFiles.fileAt_of_file hbelow.1 hkind, fun hfits => ?_⟩
  obtain ⟨g, hread, hmatch⟩ := hself _ hfits
  have hall := NamespaceFiles.all_files_eq (f := f) hfaults
  have hlisted := NamespaceFiles.fileOf_mem_filesIn ho hkind hbelow
  exact ⟨_, NamespaceFiles.find_including hread hall, List.mem_filter.2 ⟨hlisted, hmatch⟩⟩

/-- A client may write where a line feed and a question mark are escaped, in a folder that is called
like a pattern. The file is found by its path. -/
theorem paths_select_themselves_of_marks :
    let c := Client.daily
    let f := c.ownFiles
    let given := "kestra:///open/_files/a%0A**/***%3F[x"
    let put : World.Event := .ask (.client c (.putAt (.ofBytes .empty) (some given)))
    let w := World.start .noon2024
    let v := { w with store := (w.after [put]).store }
    let path := "/a\n**/***?[x"
    (∃ g, Glob.ofText path = .ok g ∧ g.isMatch path = true) ∧
      ∃ file files, file.path = path ∧ (f.find [path] [] v).1 = .ok files ∧ file ∈ files := by
  intro c f given put w v path
  obtain ⟨hself, hfind⟩ := paths_select_themselves
  have hfits : Glob.fits (Glob.tokensOf (Text.trimStart '/' path.toList)) = true :=
    Glob.fits_tokensOf (by decide +kernel)
  refine ⟨hself path hfits, ?_⟩
  let uri : Uri := ⟨.slashes,
    [⟨"open", List.all_eq_true.1 rfl, by decide⟩, ⟨"_files", List.all_eq_true.1 rfl, by decide⟩,
      ⟨"a%0A**", List.all_eq_true.1 rfl, by decide⟩,
      ⟨"***%3F[x", List.all_eq_true.1 rfl, by decide⟩], none, none, nofun⟩
  have hstored : (v.store.find? f.area uri).map Store.Object.kind = some .file := by decide +kernel
  obtain ⟨o, ho, hkind⟩ := Option.map_eq_some_iff.1 hstored
  obtain ⟨file, hfile, hfound⟩ := hfind f v uri o rfl ho hkind (by decide +kernel)
  have hreported : (f.fileAt uri false).toOption.map NamespaceFile.path = some path := by
    decide +kernel
  rw [hfile] at hreported
  have hpath : file.path = path := Option.some.inj hreported
  rw [hpath] at hfound
  obtain ⟨files, hfiles, hmem⟩ := hfound hfits
  exact ⟨file, files, hpath, hfiles, hmem⟩

end Depot
