import Depot.Proofs.Client.Listing
import Depot.Proofs.Client.Tree

/-!
# Reading what is listed by its path

A file of a namespace is reported by a path, the names that are read in its reference with slashes
between them. The path leads back to the file if and only if the reference is named
(`NamespaceFiles.uriOf_path_iff`): names that have been read are put below the root in one way only,
and clients may write at references that are written in other ways. What listings report, and which
of it is read by its path, is told by `listed_paths_read_back`.
-/

namespace Depot

/-! ## Paths -/

/-- The slash before a path is all that is trimmed from it. -/
theorem NamespaceFiles.trimPath_glue {names : List String} (h : ∀ name ∈ names, IsPiece name) :
    trimPath ("/" ++ Text.glue '/' names) = Text.glue '/' names := by
  have hpieces : ∀ cs ∈ names.map String.toList, cs ≠ [] ∧ '/' ∉ cs := by
    intro cs hcs
    obtain ⟨name, hname, rfl⟩ := List.mem_map.1 hcs
    refine ⟨fun hnil => ?_, (h name hname).2⟩
    exact (isPart_iff.1 (h name hname).1).1 (String.toList_inj.1 hnil)
  have hslash : ("/" ++ Text.glue '/' names).toList =
      '/' :: Text.join '/' (names.map String.toList) := by
    simp [Text.glue]
  rw [trimPath, hslash, Text.trim_join hpieces, Text.glue]

namespace NamespaceFiles

variable {f : NamespaceFiles} {e : Entry} {w : World}

/-- How an entry of a listing is reported. -/
def fileOf (f : NamespaceFiles) (e : Entry) : NamespaceFile :=
  ⟨"/" ++ Text.glue '/' ((e.uri.relativeTo f.root).getD []), e.uri, f.area.space,
    e.attributes.isDirectory⟩

theorem fileAt_eq_fileOf (h : e.uri.startsWith f.root = true) :
    f.fileAt e.uri e.attributes.isDirectory = .ok (f.fileOf e) := by
  simp only [fileAt, fileOf, Uri.relativeTo, if_pos h, Option.getD_some]

/-- The files of a listing. -/
def filesIn (f : NamespaceFiles) (s : Store) : List Entry :=
  (s.list f.area f.root).filter fun e => !e.attributes.isDirectory

theorem isBelow_root_of_mem_filesIn {s : Store} (he : e ∈ f.filesIn s) : e.uri.IsBelow f.root := by
  obtain ⟨hlisted, hfile⟩ := List.mem_filter.1 he
  exact Store.isBelow_of_file hlisted (by simpa using hfile)

/-- What is listed as a file is one. -/
theorem exists_file_of_mem_filesIn {s : Store} (he : e ∈ f.filesIn s) :
    ∃ o, s.find? f.area e.uri = some o ∧ o.kind = .file := by
  obtain ⟨hlisted, hfile⟩ := List.mem_filter.1 he
  exact Store.exists_file_of_mem_list hlisted (by simpa using hfile)

/-- All files can be reported. -/
theorem all_files_eq (hfaults : w.faults = .none) :
    (f.all none false w).1 = .ok ((f.filesIn w.store).map f.fileOf) := by
  rw [all_apply rfl hfaults]
  simp only [Bool.false_or]
  have hmapM := mapM_eq_ok_map fun e (he : e ∈ f.filesIn w.store) =>
    fileAt_eq_fileOf (isBelow_root_of_mem_filesIn he).1
  exact congrArg (Except.mapError Failure.badReference) hmapM

/-- A file at a named reference is reported by the names that lead there from the root. -/
theorem exists_names_of_isBelow_root (hbelow : e.uri.IsBelow f.root) (hnamed : e.uri.IsNamed) :
    ∃ names, names ≠ [] ∧ (∀ name ∈ names, IsPiece name) ∧
      e.uri = .ofNames (f.rootNames ++ names) ∧ (f.fileOf e).path = "/" ++ Text.glue '/' names := by
  obtain ⟨first, others, hrelative⟩ := Uri.isBelow_iff_relativeTo.1 hbelow
  obtain ⟨huri, hnames⟩ :=
    Uri.eq_ofNames_of_relativeTo isPart_of_mem_rootNames hnamed hrelative
  refine ⟨first :: others, List.cons_ne_nil _ _,
    fun name h => hnames name (List.mem_append_right _ h), huri, ?_⟩
  rw [fileOf, hrelative, Option.getD_some]

/-- A path leads back to the file that is reported by it if and only if the file is at a named
reference. -/
theorem uriOf_path_iff (hbelow : e.uri.IsBelow f.root) :
    f.uriOf (f.fileOf e).path = .ok e.uri ↔ e.uri.IsNamed := by
  refine ⟨isNamed_of_uriOf, fun hnamed => ?_⟩
  obtain ⟨names, hne, hpieces, huri, hpath⟩ := exists_names_of_isBelow_root hbelow hnamed
  rw [hpath, uriOf_eq_ok_iff_pieces, trimPath_glue hpieces,
    Text.pieces_glue hne fun name h => (hpieces name h).2]
  exact ⟨hpieces, huri⟩

theorem read_of_uriOf {path : String} {u : Uri} (hu : f.uriOf path = .ok u)
    (hget : w.faults.failing .get = none) : (f.read path w).1 = w.store.read f.area u := by
  rw [NamespaceFiles.read, Action.guarded_bind_of_ok _ w hu, Backend.read_apply hget]

/-- Files are in the order of the references as they are written. -/
theorem ordered_filesIn (f : NamespaceFiles) (s : Store) :
    (f.filesIn s).Pairwise fun d e => d.uri.text < e.uri.text :=
  (Store.ordered_list s f.area f.root).filter _

/-- Files at named references are reported by different paths. -/
theorem pairwise_path_ne (f : NamespaceFiles) (s : Store) :
    ((f.filesIn s).map f.fileOf).Pairwise fun a b =>
      a.uri.IsNamed → b.uri.IsNamed → a.path ≠ b.path := by
  rw [List.pairwise_map]
  refine (ordered_filesIn f s).imp_of_mem fun {d e} hd he hlt hdnamed henamed hpath => ?_
  -- One path does not lead to two places.
  have hduri := (uriOf_path_iff (isBelow_root_of_mem_filesIn hd)).2 hdnamed
  have heuri := (uriOf_path_iff (isBelow_root_of_mem_filesIn he)).2 henamed
  rw [hpath, heuri] at hduri
  rw [Except.ok.inj hduri] at hlt
  exact String.lt_irrefl _ hlt

end NamespaceFiles

/-- Whatever clients have done since nothing was stored: all files of a namespace can be reported. A
path leads back to its file if and only if the file is at a named reference, and then the file is
read by it and no other file at such a reference is reported by it. All files are at named
references if those are that clients have been given to write at. -/
theorem listed_paths_read_back (w : World) (events : List World.Event) (f : NamespaceFiles)
    (v : World) (hstore : v.store = ({ w with store := .empty }.after events).store)
    (hfaults : v.faults = .none) :
    ∃ files, (f.all none false v).1 = .ok files ∧
      (∀ file ∈ files, ∃ o, v.store.find? f.area file.uri = some o ∧ o.kind = .file ∧
        (f.uriOf file.path = .ok file.uri ↔ file.uri.IsNamed) ∧
        (file.uri.IsNamed → (f.read file.path v).1 = .ok o.content)) ∧
      (files.Pairwise fun a b => a.uri.IsNamed → b.uri.IsNamed → a.path ≠ b.path) ∧
      ((∀ c source given u, .ask (.client c (.putAt source given)) ∈ events →
        Uri.letIn given = .ok u → c.area = f.area → u.IsBelow f.root → u.IsNamed) →
          ∀ file ∈ files, file.uri.IsNamed) := by
  refine ⟨_, NamespaceFiles.all_files_eq hfaults, ?_, NamespaceFiles.pairwise_path_ne f v.store, ?_⟩
  · intro file hfile
    obtain ⟨e, he, rfl⟩ := List.mem_map.1 hfile
    obtain ⟨o, ho, hkind⟩ := NamespaceFiles.exists_file_of_mem_filesIn he
    have hpath := NamespaceFiles.uriOf_path_iff (NamespaceFiles.isBelow_root_of_mem_filesIn he)
    refine ⟨o, ho, hkind, hpath, fun hnamed => ?_⟩
    rw [NamespaceFiles.read_of_uriOf (hpath.2 hnamed) (by rw [hfaults]; rfl)]
    simp only [Store.read, ho, hkind]
  · intro hgiven file hfile
    obtain ⟨e, he, rfl⟩ := List.mem_map.1 hfile
    obtain ⟨o, ho, -⟩ := NamespaceFiles.exists_file_of_mem_filesIn he
    -- All objects of the area below the root are named.
    have hkeys : v.store.AllKeys fun k =>
        k.area = f.area → k.uri.IsBelow f.root → k.uri.IsNamed := by
      rw [hstore]
      exact World.allKeys_after_of_named rfl (fun _ _ hu _ _ => hu) hgiven
    exact hkeys.of_find? ho rfl (NamespaceFiles.isBelow_root_of_mem_filesIn he)

/-- A file is read by the path that it is reported by, whatever its name is made of. -/
theorem listed_paths_read_back_of_marks :
    let f := Client.daily.ownFiles
    let content : ByteArray := ⟨#[1, 2, 3]⟩
    let w := World.start .noon2024
    let events := [.ask (.files f (.put "docs/50 %2F?.md" (.ofBytes content) .overwrite))]
    let v := { w with store := ({ w with store := .empty }.after events).store }
    ∃ file, (f.all none false v).1 = .ok [file] ∧ file.path = "/docs/50 %2F?.md" ∧
      (f.read file.path v).1 = .ok content := by
  intro f content w events v
  have hnogiven : ∀ c source given, .ask (.client c (.putAt source given)) ∉ events := by
    simp [events]
  obtain ⟨files, hall, hread, -, hnamed⟩ := listed_paths_read_back w events f v rfl rfl
  have hfiles : (f.all none false v).1.toOption.map
      (·.map fun file => (file.path, v.store.find? f.area file.uri |>.map Store.Object.content)) =
      some [("/docs/50 %2F?.md", some content)] := by
    decide +kernel
  rw [hall] at hfiles
  obtain ⟨file, rfl, hfile⟩ := List.map_eq_singleton_iff.1 (Option.some.inj hfiles)
  obtain ⟨hpath, hcontent⟩ := Prod.mk.inj hfile
  obtain ⟨o, ho, -, -, hbytes⟩ := hread file (List.mem_singleton_self file)
  rw [ho, Option.map_some, Option.some.injEq] at hcontent
  refine ⟨file, hall, hpath, hcontent ▸ hbytes (hnamed ?_ file (List.mem_singleton_self file))⟩
  exact fun c source given _ hgiven => absurd hgiven (hnogiven c source given)

/-- Clients may write at references with a query or a fragment. Two such files are reported by one
path, and neither is read by it. -/
theorem listed_paths_mislead :
    let c := Client.daily
    let f := c.ownFiles
    let put := fun given => World.Event.ask (.client c (.putAt (.ofBytes .empty) (some given)))
    let w := World.start .noon2024
    let v := { w with store := (w.after
      [put "kestra:///open/_files/a?x", put "kestra:///open/_files/a#x"]).store }
    ∃ files, (f.all none false v).1 = .ok files ∧ files.map NamespaceFile.path = ["/a", "/a"] ∧
      (f.read "/a" v).1 = .error (.notFound "kestra:///open/_files/a") := by
  intro c f put w v
  have hfiles : (f.all none false v).1.toOption.map (·.map NamespaceFile.path) =
      some ["/a", "/a"] := by
    decide +kernel
  have hplace : f.uriOf "/a" = .ok (.ofNames ["open", "_files", "a"]) := by decide +kernel
  have hnone : v.store.find? f.area (.ofNames ["open", "_files", "a"]) = none := by decide +kernel
  have htext : (Uri.ofNames ["open", "_files", "a"]).text = "kestra:///open/_files/a" := by
    decide +kernel
  cases hall : (f.all none false v).1 with
  | error e =>
    rw [hall] at hfiles
    cases hfiles
  | ok files =>
    rw [hall] at hfiles
    refine ⟨files, rfl, Option.some.inj hfiles, ?_⟩
    rw [NamespaceFiles.read_of_uriOf hplace rfl, Store.read, hnone, ← htext]

end Depot
