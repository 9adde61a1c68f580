import Depot.Proofs.Client.Conflict
import Mathlib.Data.List.Sort

/-!
# Files that are written, read and listed

The files of a namespace are listed as the store has them below the root (`mem_filesIn_iff`). So a
file that is put is listed once, with what it says of itself, and all other files are listed as they
were (`filter_filesIn_insert_self`, `filter_filesIn_insert_other`). It is answered by the path that
it is put at, without the slashes at its ends (`fileAt_of_uriOf`). How a file that is put, what is
read afterwards and the listings before and after agree is told by `written_read_and_listed`.
-/

namespace Depot

namespace NamespaceFiles

variable {f : NamespaceFiles} {s : Store} {e : Entry} {u : Uri} {o : Store.Object}

/-! ## The files of a listing -/

/-- The files of a listing are those of the store that are below the root. -/
theorem mem_filesIn_iff :
    e ∈ f.filesIn s ↔ e.uri.IsBelow f.root ∧
      ∃ o, s.find? f.area e.uri = some o ∧ o.kind = .file ∧ e.attributes = o.attributes e.uri := by
  constructor
  · intro he
    obtain ⟨hlisted, hmark⟩ := List.mem_filter.1 he
    have hfile : e.attributes.isDirectory = false := by simpa using hmark
    obtain ⟨hbelow, o, ho, hattributes⟩ := Store.exists_object_of_file hlisted hfile
    rw [hattributes, Store.Object.isDirectory_attributes_eq_false_iff] at hfile
    exact ⟨hbelow, o, ho, hfile, hattributes⟩
  · rintro ⟨hbelow, o, ho, hkind, hattributes⟩
    have hobject : (s.objectsBelow f.area f.root)[e.uri]? = some e.attributes := by
      rw [Store.getElem?_objectsBelow, if_pos hbelow, ← Store.find?_eq, ho, hattributes,
        Option.map_some]
    refine List.mem_filter.2 ⟨Store.mem_list_iff.2 ?_, ?_⟩
    · rw [hobject, Option.some_or]
    · rw [hattributes, Store.Object.isDirectory_attributes_eq_false_iff.2 hkind]
      rfl

/-- A stored file is reported without the mark of a directory. -/
theorem fileAt_of_file (hroot : u.startsWith f.root = true) (hkind : o.kind = .file) :
    f.fileAt u false = .ok (f.fileOf ⟨u, o.attributes u⟩) := by
  have hreported := fileAt_eq_fileOf (e := ⟨u, o.attributes u⟩) hroot
  rwa [Store.Object.isDirectory_attributes_eq_false_iff.2 hkind] at hreported

/-- A listing is in order, so that it is known by what is in it. -/
theorem eq_of_ordered {l₁ l₂ : List Entry} (h₁ : l₁.Pairwise fun d e => d.uri.text < e.uri.text)
    (h₂ : l₂.Pairwise fun d e => d.uri.text < e.uri.text) (h : ∀ e, e ∈ l₁ ↔ e ∈ l₂) : l₁ = l₂ := by
  have : Std.Irrefl fun d e : Entry => d.uri.text < e.uri.text :=
    ⟨fun e => String.lt_irrefl e.uri.text⟩
  have : Std.Antisymm fun d e : Entry => d.uri.text < e.uri.text :=
    ⟨fun d e hde hed => absurd (String.lt_trans hde hed) (String.lt_irrefl _)⟩
  exact h₁.eq_of_mem_iff h₂ h

/-- A file that is put is listed once, with what it says of itself. -/
theorem filter_filesIn_insert_self (hbelow : u.IsBelow f.root) (hkind : o.kind = .file) :
    (f.filesIn (s.insert f.area u o)).filter (·.uri = u) = [⟨u, o.attributes u⟩] := by
  refine eq_of_ordered ((ordered_filesIn f _).filter _) (List.pairwise_singleton _ _) fun e => ?_
  rw [List.mem_filter, mem_filesIn_iff, List.mem_singleton, decide_eq_true_eq]
  constructor
  · rintro ⟨⟨-, p, hp, -, hattributes⟩, rfl⟩
    rw [Store.find?_insert_self, Option.some.injEq] at hp
    subst hp
    rw [← hattributes]
  · rintro rfl
    exact ⟨⟨hbelow, o, Store.find?_insert_self, hkind, rfl⟩, rfl⟩

/-- All other files are listed as they were. -/
theorem filter_filesIn_insert_other :
    (f.filesIn (s.insert f.area u o)).filter (·.uri ≠ u) = (f.filesIn s).filter (·.uri ≠ u) := by
  refine eq_of_ordered ((ordered_filesIn f _).filter _) ((ordered_filesIn f _).filter _) fun e => ?_
  simp only [List.mem_filter, mem_filesIn_iff, decide_eq_true_eq]
  refine and_congr_left fun hother => ?_
  rw [Store.find?_insert_other hother]

/-! ## A file that goes over what is there -/

variable {path : String} {source : Source} {content : ByteArray} {w : World}

/-- A file is answered by the path that it is put at, without the slashes at its ends. -/
theorem fileAt_of_uriOf (hu : f.uriOf path = .ok u) (directory : Bool) :
    f.fileAt u directory = .ok ⟨"/" ++ trimPath path, u, f.area.space, directory⟩ := by
  obtain ⟨hpieces, rfl⟩ := uriOf_eq_ok_iff_pieces.1 hu
  have hrelative :
      (Uri.ofNames (f.rootNames ++ Text.pieces '/' (trimPath path))).relativeTo f.root =
        some (Text.pieces '/' (trimPath path)) :=
    Uri.relativeTo_ofNames fun name h => (isPiece_of_mem_rootNames_append hpieces name h).1
  simp only [fileAt, hrelative, Text.glue_pieces]

/-- A file that is put is listed as it is answered. -/
theorem fileOf_of_uriOf (hu : f.uriOf path = .ok u) (hkind : o.kind = .file) :
    f.fileOf ⟨u, o.attributes u⟩ = ⟨"/" ++ trimPath path, u, f.area.space, false⟩ := by
  have hreported := fileAt_of_file (startsWith_root_of_uriOf hu) hkind
  rw [fileAt_of_uriOf hu] at hreported
  exact (Except.ok.inj hreported).symm

/-- Where nothing is wrong, a file goes over anything but a directory. -/
theorem exists_put_over (hw : w.faults = .none) (hu : f.uriOf path = .ok u)
    (hcontent : source.readAll = .ok content)
    (hfree : w.store.holdsDirectory ⟨f.area, u⟩ = false) :
    ∃ v o, f.put path source .overwrite w =
        (.ok ⟨"/" ++ trimPath path, u, f.area.space, false⟩, v) ∧
      v.faults = .none ∧ v.store = w.store.insert f.area u o ∧
        o.kind = .file ∧ o.content = content := by
  obtain ⟨t, hin⟩ := (exists_putIn_iff w.clock.millis path).2
    (Or.inr ⟨Or.inl rfl, ⟨content, hcontent⟩, hfree⟩)
  obtain ⟨served, hput⟩ := put_apply source .overwrite hw hu (fileAt_of_uriOf hu false)
  rw [hin] at hput
  rcases putIn_eq_ok_iff.1 hin with ⟨hskip, -⟩ | ⟨-, bytes, o, hbytes, ho, rfl⟩
  · cases hskip
  · have hsame : bytes = content := Except.ok.inj (hbytes.symm.trans hcontent)
    exact ⟨_, o, hput, hw, rfl, Store.kind_of_writtenOver ho,
      hsame ▸ Store.content_of_writtenOver ho⟩

end NamespaceFiles

/-- Whatever clients do, the reference of every object is read back from its text, if all
references that they are given to write at are. -/
theorem World.isWritten_after {w : World} {events : List World.Event} (hw : w.store = .empty)
    (hevents : ∀ a, .ask a ∈ events → a.ReadsBack) :
    (w.after events).store.AllKeys fun k => k.uri.IsWritten :=
  allKeys_after hw fun a _ ha hu => Ask.isWritten_of_writesTo (hevents a ha) hu

/-- A file is read by the reference that it is listed at. -/
theorem Client.read_of_file {c : Client} {given : Uri.Given} {w : World} {u : Uri}
    {o : Store.Object} (hgiven : Uri.letIn given = .ok u) (hget : w.faults.failing .get = none)
    (ho : w.store.find? c.area u = some o) (hkind : o.kind = .file) :
    (c.read given w).1 = .ok o.content := by
  rw [Client.read_of_letIn hgiven hget, Store.read_of_file ho hkind]

/-- Whatever clients have done since nothing was stored, and where nothing is wrong: a file that is
to go over what is there, which is no directory that has been made, is put. It is answered by the
path without the slashes at its ends, and is read by the one path as by the other. Afterwards all
files can be listed as before. The file is listed once, as it was answered; all others are listed as
they were, and however their references are given, they still lead every client of the area to what
they led to. The texts of the references are among what can be given, unless clients have been given
references to write at that are not read back from theirs. -/
theorem written_read_and_listed (w : World) (events : List World.Event) (f : NamespaceFiles)
    (path : String) (source : Source) (content : ByteArray) (u : Uri) (v : World)
    (hstore : v.store = ({ w with store := .empty }.after events).store)
    (hfaults : v.faults = .none) (hu : f.uriOf path = .ok u)
    (hcontent : source.readAll = .ok content)
    (hfree : v.store.holdsDirectory ⟨f.area, u⟩ = false) :
    ∃ file x before after, f.put path source .overwrite v = (.ok file, x) ∧
      file = ⟨"/" ++ NamespaceFiles.trimPath path, u, f.area.space, false⟩ ∧
      (f.read path x).1 = .ok content ∧ (f.read file.path x).1 = .ok content ∧
      (f.all none false v).1 = .ok before ∧ (f.all none false x).1 = .ok after ∧
      after.filter (·.uri = u) = [file] ∧
      after.filter (·.uri ≠ u) = before.filter (·.uri ≠ u) ∧
      ∀ g ∈ before, g.uri ≠ u →
        ((∀ a, .ask a ∈ events → a.ReadsBack) → Uri.letIn (some g.uri.text) = .ok g.uri) ∧
        ∀ d : Client, d.area = f.area → ∃ bytes, ∀ given, Uri.letIn given = .ok g.uri →
          (d.read given v).1 = .ok bytes ∧ (d.read given x).1 = .ok bytes := by
  obtain ⟨x, o, hput, hx, hxstore, hkind, hbytes⟩ :=
    NamespaceFiles.exists_put_over hfaults hu hcontent hfree
  have hbelow : u.IsBelow f.root := NamespaceFiles.isBelow_root_of_uriOf hu
  have hreported : f.fileOf ⟨u, o.attributes u⟩ = _ := NamespaceFiles.fileOf_of_uriOf hu hkind
  have hread : ∀ p, f.uriOf p = .ok u → (f.read p x).1 = .ok content := by
    intro p hp
    rw [NamespaceFiles.read_of_uriOf hp (by rw [hx]; rfl), hxstore, Store.read_insert hkind, hbytes]
  refine ⟨_, x, _, _, hput, rfl, hread path hu, hread _ ?_, NamespaceFiles.all_files_eq hfaults,
    NamespaceFiles.all_files_eq hx, ?_, ?_, ?_⟩
  · rw [← hreported]
    exact (NamespaceFiles.uriOf_path_iff (e := ⟨u, o.attributes u⟩) hbelow).2
      (NamespaceFiles.isNamed_of_uriOf hu)
  · calc ((f.filesIn x.store).map f.fileOf).filter (·.uri = u)
        = ((f.filesIn x.store).filter (·.uri = u)).map f.fileOf := List.filter_map
      _ = [f.fileOf ⟨u, o.attributes u⟩] := by
        rw [hxstore, NamespaceFiles.filter_filesIn_insert_self hbelow hkind, List.map_singleton]
      _ = _ := by rw [hreported]
  · calc ((f.filesIn x.store).map f.fileOf).filter (·.uri ≠ u)
        = ((f.filesIn x.store).filter (·.uri ≠ u)).map f.fileOf := List.filter_map
      _ = ((f.filesIn v.store).filter (·.uri ≠ u)).map f.fileOf := by
        rw [hxstore, NamespaceFiles.filter_filesIn_insert_other]
      _ = ((f.filesIn v.store).map f.fileOf).filter (·.uri ≠ u) := by
        rw [List.filter_map]
        rfl
  · intro g hg hother
    obtain ⟨e, he, rfl⟩ := List.mem_map.1 hg
    obtain ⟨p, hp, hpkind⟩ := NamespaceFiles.exists_file_of_mem_filesIn he
    have hne : e.uri ≠ u := hother
    have hkept : x.store.find? f.area e.uri = some p := by
      rw [hxstore, Store.find?_insert_other hne, hp]
    refine ⟨fun hevents => ?_, fun d hd => ⟨p.content, fun given hgiven => ⟨?_, ?_⟩⟩⟩
    · rw [hstore] at hp
      exact Uri.parse_text ((World.isWritten_after rfl hevents).of_find? hp)
    · exact Client.read_of_file hgiven (by rw [hfaults]; rfl) (hd ▸ hp) hpkind
    · exact Client.read_of_file hgiven (by rw [hx]; rfl) (hd ▸ hkept) hpkind

/-- A file may have the path of a directory that is only there because another file is in it. It is
listed beside the other file, by the path that is left without the slashes, and the other file is
still read by the text of its reference. -/
theorem written_read_and_listed_of_way :
    let f := Client.daily.ownFiles
    let first : ByteArray := ⟨#[1]⟩
    let second : ByteArray := ⟨#[2]⟩
    let start := World.start .noon2024
    let events := [.ask (.files f (.put "docs/50 %2F?.md" (.ofBytes first) .overwrite))]
    let v := { start with store := ({ start with store := .empty }.after events).store }
    ∃ file x, f.put "//docs/" (.ofBytes second) .overwrite v = (.ok file, x) ∧
      file.path = "/docs" ∧ (f.read "/docs" x).1 = .ok second ∧
      (f.all none false x).1.toOption.map (·.map NamespaceFile.path) =
        some ["/docs", "/docs/50 %2F?.md"] ∧
      (Client.daily.read (some "kestra:///open/_files/docs/50%20%252F%3F.md") x).1 = .ok first := by
  intro f first second start events v
  let other : Uri := .ofNames ["open", "_files", "docs", "50 %2F?.md"]
  have hu : f.uriOf "//docs/" = .ok (.ofNames ["open", "_files", "docs"]) := by decide +kernel
  have hfree : v.store.holdsDirectory ⟨f.area, .ofNames ["open", "_files", "docs"]⟩ = false := by
    decide +kernel
  obtain ⟨file, x, before, after, hput, hfile, -, hread, hbefore, -, -, -, hothers⟩ :=
    written_read_and_listed start events f "//docs/" (.ofBytes second) second _ v rfl rfl hu rfl
      hfree
  have hpath : file.path = "/docs" := by
    rw [hfile]
    decide +kernel
  have hx : x = (f.put "//docs/" (.ofBytes second) .overwrite v).2 := by rw [hput]
  refine ⟨file, x, hput, hpath, hpath ▸ hread, ?_, ?_⟩
  · rw [hx]
    decide +kernel
  · have hlisted : (f.all none false v).1.toOption.map (·.map NamespaceFile.uri) =
        some [other] := by
      decide +kernel
    rw [hbefore] at hlisted
    have huris : before.map NamespaceFile.uri = [other] := Option.some.inj hlisted
    obtain ⟨g, hg, hguri⟩ : ∃ g ∈ before, g.uri = other :=
      List.mem_map.1 (by rw [huris]; exact List.mem_singleton_self other)
    have hne : g.uri ≠ .ofNames ["open", "_files", "docs"] := by
      rw [hguri]
      decide +kernel
    obtain ⟨hback, hsame⟩ := hothers g hg hne
    have hgiven : Uri.letIn (some g.uri.text) = .ok g.uri := by
      refine hback fun a ha => ?_
      cases List.mem_singleton.1 ha
      trivial
    obtain ⟨bytes, hbytes⟩ := hsame .daily rfl
    obtain ⟨hv, hx'⟩ := hbytes _ hgiven
    have htext : g.uri.text = "kestra:///open/_files/docs/50%20%252F%3F.md" := by
      rw [hguri]
      decide +kernel
    have hfirst : (Client.daily.read (some g.uri.text) v).1.toOption = some first := by
      rw [htext]
      decide +kernel
    rw [hv] at hfirst
    rw [← htext, hx', Option.some.inj hfirst]

end Depot
