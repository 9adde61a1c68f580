import Depot.Entry.Record
import Depot.Proofs.Action.Success
import Depot.Proofs.Client.AllOrNothing
import Depot.Proofs.Uri.ReadBack

/-!
# References that are handed out

A client answers with references, and callers hand them back as text. What is handed out is what was
let in before, or what names lead to from the root, so that the text is read as the same reference
(`Ask.isWritten_of_writesTo`), unless the client was given a reference or a URL to write at that is
not written as it is read (`Ask.ReadsBack`). A write that succeeds leaves a file at the reference
that it answers with (`Ask.place_eq_ok`), and there everybody who may touch the area finds what was
handed over.
-/

namespace Depot

namespace Client

variable {c : Client} {w v : World} {u : Uri}

theorem writeAt_eq_ok {source : Source} {uri : Uri} (h : c.writeAt source uri w = (.ok u, v)) :
    ∃ content, source.readAll = .ok content ∧ w.Wrote v c.area uri content u := by
  obtain ⟨content, hcontent, hwrite⟩ := Action.ofExcept_bind_eq_ok_iff.1 h
  exact ⟨content, hcontent, Backend.write_eq_ok hwrite⟩

theorem readLocal_bind_eq_ok_iff {α : Type} {path : LocalPath} {f : ByteArray → Action α}
    {a : α} :
    (readLocal path >>= f) w = (.ok a, v) ↔
      ∃ content, w.disk.read path = .ok content ∧ f content w = (.ok a, v) := by
  have hread : (readLocal path >>= f) w = (Action.ofExcept (w.disk.read path) >>= f) w := rfl
  rw [hread, Action.ofExcept_bind_eq_ok_iff]

theorem consuming_eq_ok_iff {α : Type} {path : LocalPath} {act : Action α} {a : α} :
    consuming path act w = (.ok a, v) ↔
      ∃ x, act w = (.ok a, x) ∧ v = { x with disk := x.disk.unlink path } := by
  constructor
  · intro h
    obtain ⟨hact, hv⟩ := Prod.mk.inj h
    exact ⟨(act w).2, Prod.ext hact rfl, hv.symm⟩
  · rintro ⟨x, hact, rfl⟩
    rw [consuming, Action.ensuring, hact]

theorem putLocal_eq_ok {path : LocalPath} {name : Option String}
    (h : c.putLocal path name w = (.ok u, v)) :
    ∃ uri content, (Request.putLocal path name).WritesTo c uri ∧ w.disk.read path = .ok content ∧
      w.Wrote v c.area uri content u := by
  obtain ⟨x, hact, rfl⟩ := consuming_eq_ok_iff.1 h
  obtain ⟨n, hn, h⟩ := Action.guarded_bind_eq_ok_iff.1 hact
  obtain ⟨uri, huri, h⟩ := Action.guarded_bind_eq_ok_iff.1 h
  obtain ⟨content, hcontent, h⟩ := readLocal_bind_eq_ok_iff.1 h
  obtain ⟨bytes, hbytes, hwrote⟩ := writeAt_eq_ok h
  cases hbytes
  exact ⟨uri, content, ⟨n, hn, huri⟩, hcontent, hwrote.unlink path⟩

theorem putCache_eq_ok {path : LocalPath} {cacheId : String} {objectId : Option String}
    (h : c.putCache path cacheId objectId w = (.ok u, v)) :
    ∃ uri content, c.context.cacheUri cacheId objectId = .ok uri ∧
      w.disk.read path = .ok content ∧ w.Wrote v c.area uri content u := by
  obtain ⟨x, hact, rfl⟩ := consuming_eq_ok_iff.1 h
  obtain ⟨uri, huri, h⟩ := Action.guarded_bind_eq_ok_iff.1 hact
  obtain ⟨content, hcontent, h⟩ := readLocal_bind_eq_ok_iff.1 h
  obtain ⟨bytes, hbytes, hwrote⟩ := writeAt_eq_ok h
  cases hbytes
  exact ⟨uri, content, huri, hcontent, hwrote.unlink path⟩

end Client

namespace NamespaceFiles

variable {f : NamespaceFiles} {w v : World} {file : NamespaceFile}

/-- What is left to do once it is known whether something is at the place already. -/
def putOver (f : NamespaceFiles) (path : String) (source : Source) (policy : OnConflict)
    (uri : Uri) (taken : Bool) : Action NamespaceFile := do
  if taken && policy == .error then
    throw (.alreadyExists (.namespaceFile path f.area.space.text))
  if taken then Action.guarded (f.fileAt uri false)
  else
    let content ← Action.ofExcept source.readAll
    let written ← Backend.write f.area uri content
    Action.guarded (f.fileAt written false)

/-- Whether something is at the place makes no difference to a file that goes over it. -/
def askTaken (f : NamespaceFiles) (policy : OnConflict) (uri : Uri) : Action Bool :=
  if policy = .overwrite then pure false else Backend.contains f.area uri

theorem put_eq (f : NamespaceFiles) (path : String) (source : Source) (policy : OnConflict) :
    f.put path source policy = (do
      let uri ← Action.guarded (f.uriOf path)
      let taken ← f.askTaken policy uri
      f.putOver path source policy uri taken) := by
  cases policy <;> rfl

theorem askTaken_eq_ok {policy : OnConflict} {uri : Uri} {taken : Bool}
    (h : f.askTaken policy uri w = (.ok taken, v)) :
    v.store = w.store ∧ v.faults = w.faults ∧
      (taken = true → policy ≠ .overwrite ∧ w.store.contains f.area uri = true) := by
  unfold askTaken at h
  split at h
  · cases h
    exact ⟨rfl, rfl, nofun⟩
  · next hpolicy =>
    cases hfails : w.faults.failing .exists with
    | some e =>
      rw [Backend.contains, Backend.front_of_some hfails] at h
      cases h
    | none =>
      rw [Backend.contains_apply hfails] at h
      cases h
      exact ⟨rfl, rfl, fun hthere => ⟨hpolicy, hthere⟩⟩

theorem exists_askTaken_eq_ok {policy : OnConflict} {uri : Uri} (hw : w.faults = .none)
    (hfree : policy = .overwrite ∨ w.store.contains f.area uri = false) :
    ∃ v, f.askTaken policy uri w = (.ok false, v) ∧ v.store = w.store ∧ v.faults = w.faults := by
  unfold askTaken
  by_cases hpolicy : policy = .overwrite
  · rw [if_pos hpolicy]
    exact ⟨w, rfl, rfl, rfl⟩
  · rw [if_neg hpolicy, Backend.contains_apply (by rw [hw]; rfl), hfree.resolve_left hpolicy]
    exact ⟨w.serving w.store, rfl, rfl, rfl⟩

/-- A file that has been put is there, or was there and has been left alone. -/
theorem put_eq_ok {path : String} {source : Source} {policy : OnConflict}
    (h : f.put path source policy w = (.ok file, v)) :
    ∃ uri, f.uriOf path = .ok uri ∧
      (policy = .skip ∧ w.store.contains f.area uri = true ∧ file.uri = uri ∨
        ∃ content, source.readAll = .ok content ∧ w.Wrote v f.area uri content file.uri) := by
  rw [put_eq] at h
  obtain ⟨uri, huri, h⟩ := Action.guarded_bind_eq_ok_iff.1 h
  obtain ⟨taken, x, hasked, h⟩ := Action.bind_eq_ok_iff.1 h
  obtain ⟨hstore, hfaults, htaken⟩ := askTaken_eq_ok hasked
  refine ⟨uri, huri, ?_⟩
  cases taken with
  | false =>
    obtain ⟨content, hcontent, h⟩ := Action.ofExcept_bind_eq_ok_iff.1 h
    obtain ⟨written, y, hwritten, h⟩ := Action.bind_eq_ok_iff.1 h
    obtain ⟨hfile, rfl⟩ := Action.guarded_eq_ok h
    have hwrote := Backend.write_eq_ok hwritten
    rw [uri_of_fileAt hfile]
    exact Or.inr ⟨content, hcontent, hfaults ▸ hwrote.answered, hwrote.faults.trans hfaults,
      hwrote.stored⟩
  | true =>
    obtain ⟨hpolicy, hthere⟩ := htaken rfl
    cases policy with
    | overwrite => exact absurd rfl hpolicy
    | error => cases h
    | skip =>
      obtain ⟨hfile, -⟩ := Action.guarded_eq_ok h
      exact Or.inl ⟨rfl, hthere, uri_of_fileAt hfile⟩

end NamespaceFiles

/-- The description of a file of a namespace is read back. -/
theorem NamespaceFile.read_toValue {f : NamespaceFile} (h : Uri.parse f.uri.text = .ok f.uri) :
    NamespaceFile.read f.toValue = some f := by
  have hspace : Namespace.read f.space.text = .ok f.space := Namespace.read_eq_ok_iff.2 rfl
  obtain ⟨path, uri, space, directory⟩ := f
  dsimp only at h hspace
  cases directory <;>
    simp [read, toValue, Value.record?, List.lookup_cons, Uri.read_toValue h, Value.text?,
      Value.orElse, Value.bool?, hspace, Except.toOption]

namespace Ask

variable {a : Ask} {w v : World} {answer : Answer} {u : Uri}

/-- A request hands over a content to be written as a file, come what may: it goes over what is
there, or nothing is. -/
def Delivers (w : World) (content : ByteArray) : Ask → Prop
  | client _ (.putAt source _) => source.readAll = .ok content
  | client _ (.put source _) => source.readAll = .ok content
  | client _ (.putLocal path _) => w.disk.read path = .ok content
  | client _ (.putCache path _ _) => w.disk.read path = .ok content
  | files f (.put path source policy) => source.readAll = .ok content ∧
      (policy = .overwrite ∨ ∀ u, f.uriOf path = .ok u → w.store.contains f.area u = false)
  | _ => False

theorem place_of_wrote {uri : Uri} {content : ByteArray} (huri : a.WritesTo uri)
    (hcontent : ∀ other, a.Delivers w other → other = content)
    (hwrote : w.Wrote v a.area uri content u) :
    (a.WritesTo u ∨ w.faults.putReturns = some u) ∧
      ∀ content, a.Delivers w content → ∃ uri, w.Wrote v a.area uri content u := by
  refine ⟨hwrote.answered.imp_left fun (h : u = uri) => h ▸ huri, fun other hother => ⟨uri, ?_⟩⟩
  exact hcontent other hother ▸ hwrote

/-- The reference that is answered is that of the place, and there is the file if one has been
handed over. -/
theorem place_eq_ok (hdone : a.perform w = (.ok answer, v)) (hplace : answer.place? = some u) :
    (a.WritesTo u ∨ w.faults.putReturns = some u) ∧
      ∀ content, a.Delivers w content → ∃ uri, w.Wrote v a.area uri content u := by
  have same : ∀ {r : Except Failure ByteArray} {content : ByteArray}, r = .ok content →
      ∀ other, r = .ok other → other = content :=
    fun h other hother => Except.ok.inj (hother.symm.trans h)
  cases a with
  | client c r =>
    cases r with
    | putAt source given | put source name =>
      obtain ⟨x, h, rfl⟩ := Action.map_eq_ok_iff.1 hdone
      obtain ⟨uri, huri, h⟩ := Action.guarded_bind_eq_ok_iff.1 h
      obtain ⟨content, hcontent, hwrote⟩ := Client.writeAt_eq_ok h
      cases hplace
      exact place_of_wrote huri (same hcontent) hwrote
    | putLocal path name =>
      obtain ⟨x, h, rfl⟩ := Action.map_eq_ok_iff.1 hdone
      obtain ⟨uri, content, huri, hcontent, hwrote⟩ := Client.putLocal_eq_ok h
      cases hplace
      exact place_of_wrote huri (same hcontent) hwrote
    | putCache path cacheId objectId =>
      obtain ⟨x, h, rfl⟩ := Action.map_eq_ok_iff.1 hdone
      obtain ⟨uri, content, huri, hcontent, hwrote⟩ := Client.putCache_eq_ok h
      cases hplace
      exact place_of_wrote huri (same hcontent) hwrote
    | _ =>
      -- The other answers do not tell a place.
      obtain ⟨x, -, rfl⟩ := Action.map_eq_ok_iff.1 hdone
      cases hplace
  | files f r =>
    cases r with
    | put path source policy =>
      obtain ⟨x, h, rfl⟩ := Action.map_eq_ok_iff.1 hdone
      obtain ⟨uri, huri, hput⟩ := NamespaceFiles.put_eq_ok h
      cases hplace
      rcases hput with ⟨hskip, hthere, hu⟩ | ⟨content, hcontent, hwrote⟩
      · refine ⟨Or.inl (hu ▸ huri), ?_⟩
        -- A file that has been left alone is one that was there.
        rintro content ⟨-, hover | hfree⟩
        · cases hskip.symm.trans hover
        · cases hthere.symm.trans (hfree uri huri)
      · exact place_of_wrote huri (fun other hother => same hcontent other hother.1) hwrote
    | makeDirectory path =>
      obtain ⟨x, h, rfl⟩ := Action.map_eq_ok_iff.1 hdone
      obtain ⟨uri, huri, h⟩ := Action.guarded_bind_eq_ok_iff.1 h
      obtain ⟨made, y, -, h⟩ := Action.bind_eq_ok_iff.1 h
      cases h
      cases hplace
      exact ⟨Or.inl huri, fun _ => False.elim⟩
    | _ =>
      obtain ⟨x, -, rfl⟩ := Action.map_eq_ok_iff.1 hdone
      cases hplace

/-- What is handed over at a place that is let in is written, unless a directory is there. -/
theorem exists_perform_eq_ok {content : ByteArray} (hw : w.faults = .none) (hu : a.WritesTo u)
    (hcontent : a.Delivers w content)
    (hfile : ∀ o, w.store.find? a.area u = some o → o.kind = .file) :
    ∃ answer v, a.perform w = (.ok answer, v) ∧ answer.place? = some u := by
  -- A write gets through wherever the same is stored and nothing is wrong.
  have hwrite : ∀ x : World, x.store = w.store → x.faults = .none →
      ∃ v, Backend.write a.area u content x = (.ok u, v) := by
    intro x hstore hfaults
    obtain ⟨o, ho, -⟩ := Store.exists_writtenOver x.clock.millis u content hfile
    refine ⟨x.serving (x.store.insert a.area u o), ?_⟩
    rw [Backend.write_apply (by rw [hfaults]; rfl) (by rw [hfaults]; rfl), hstore, ho]
  obtain ⟨v, hv⟩ := hwrite w rfl hw
  cases a with
  | client c r =>
    cases r with
    | putAt source given | put source name =>
      refine ⟨.uri u, v, Action.map_eq_ok_iff.2 ⟨u, ?_, rfl⟩, rfl⟩
      refine Action.guarded_bind_eq_ok_iff.2 ⟨u, hu, ?_⟩
      exact Action.ofExcept_bind_eq_ok_iff.2 ⟨content, hcontent, hv⟩
    | putLocal path name =>
      obtain ⟨n, hn, hu⟩ := hu
      refine ⟨.uri u, { v with disk := v.disk.unlink path },
        Action.map_eq_ok_iff.2 ⟨u, ?_, rfl⟩, rfl⟩
      refine Client.consuming_eq_ok_iff.2 ⟨v, ?_, rfl⟩
      refine Action.guarded_bind_eq_ok_iff.2 ⟨n, hn, Action.guarded_bind_eq_ok_iff.2 ⟨u, hu, ?_⟩⟩
      refine Client.readLocal_bind_eq_ok_iff.2 ⟨content, hcontent, ?_⟩
      exact Action.ofExcept_bind_eq_ok_iff.2 ⟨content, rfl, hv⟩
    | putCache path cacheId objectId =>
      refine ⟨.uri u, { v with disk := v.disk.unlink path },
        Action.map_eq_ok_iff.2 ⟨u, ?_, rfl⟩, rfl⟩
      refine Client.consuming_eq_ok_iff.2 ⟨v, ?_, rfl⟩
      refine Action.guarded_bind_eq_ok_iff.2 ⟨u, hu, ?_⟩
      refine Client.readLocal_bind_eq_ok_iff.2 ⟨content, hcontent, ?_⟩
      exact Action.ofExcept_bind_eq_ok_iff.2 ⟨content, rfl, hv⟩
    | _ => exact hu.elim
  | files f r =>
    cases r with
    | put path source policy =>
      obtain ⟨hcontent, hfree⟩ := hcontent
      obtain ⟨x, hasked, hstore, hfaults⟩ :=
        NamespaceFiles.exists_askTaken_eq_ok hw (hfree.imp_right fun h => h u hu)
      obtain ⟨v, hv⟩ := hwrite x hstore (hfaults.trans hw)
      obtain ⟨file, hfile⟩ := NamespaceFiles.exists_fileAt_eq_ok_iff.2
        (NamespaceFiles.startsWith_root_of_uriOf hu)
      refine ⟨.file file, v, Action.map_eq_ok_iff.2 ⟨file, ?_, rfl⟩, ?_⟩
      · rw [NamespaceFiles.put_eq]
        refine Action.guarded_bind_eq_ok_iff.2 ⟨u, hu, Action.bind_eq_ok_iff.2
          ⟨false, x, hasked, ?_⟩⟩
        refine Action.ofExcept_bind_eq_ok_iff.2 ⟨content, hcontent, Action.bind_eq_ok_iff.2
          ⟨u, v, hv, ?_⟩⟩
        rw [hfile]
        rfl
      · rw [Answer.place?, NamespaceFiles.uri_of_fileAt hfile]
    | _ => exact hcontent.elim

/-- A reference that is given to write at is read back once it is written down. -/
def ReadsBack : Ask → Prop
  | client _ (.putAt _ given) => given.ReadsBack
  | _ => True

/-- What is answered with the description of a file has not been given a reference. -/
theorem readsBack_of_file {file : NamespaceFile} (h : a.perform w = (.ok (.file file), v)) :
    a.ReadsBack := by
  cases a with
  | client c r =>
    cases r with
    | putAt source given =>
      obtain ⟨x, -, hx⟩ := Action.map_eq_ok_iff.1 h
      cases hx
    | _ => trivial
  | files f r => trivial

/-- A place that is written to is written as it is read. -/
theorem isWritten_of_writesTo (ha : a.ReadsBack) (h : a.WritesTo u) : u.IsWritten := by
  rcases exists_way_of_writesTo h with ⟨c, source, given, rfl⟩ | ⟨names, -, rfl⟩
  · exact Uri.isWritten_of_letIn ha h
  · exact Uri.isWritten_ofNames names

end Ask

theorem Client.read_of_letIn {c : Client} {given : Uri.Given} {u : Uri} {w : World}
    (hgiven : Uri.letIn given = .ok u) (hget : w.faults.failing .get = none) :
    (c.read given w).1 = w.store.read c.area u := by
  rw [Client.read, Action.guarded_bind_of_ok _ w hgiven, Backend.read_apply hget]

/-- A reference that is handed out, as the base of a run, the root of the files of a namespace or
the answer to a request, is read back from its text, unless it has been given to write at and is
not written as it is read. The description of a file is read back as well, and what has been handed
over is read by every client of the area, by the reference, by its URL and by its text. Nothing but
a directory is in the way of what is handed over. -/
theorem handed_out_reads_back :
    (∀ c : Client, Uri.parse c.context.baseUri.text = .ok c.context.baseUri) ∧
    (∀ f : NamespaceFiles, Uri.parse f.root.text = .ok f.root) ∧
    (∀ (a : Ask) (w v : World) (answer : Answer) (u : Uri),
      a.perform w = (.ok answer, v) → answer.place? = some u →
      (∀ r, w.faults.putReturns = some r → Uri.parse r.text = .ok r) →
      (a.ReadsBack → Uri.parse u.text = .ok u) ∧
      (∀ file, answer = .file file → NamespaceFile.read file.toValue = some file) ∧
      ∀ content, a.Delivers w content →
        w.faults.putReturns = none → w.faults.failing .get = none →
        ∀ d : Client, d.area = a.area →
          (a.ReadsBack → (d.read (some u.text) v).1 = .ok content) ∧
          (d.read (.url u.toUrl) v).1 = .ok content ∧ (d.read (.value u) v).1 = .ok content) ∧
    ∀ (a : Ask) (w : World) (content : ByteArray) (u : Uri), w.faults = .none →
      a.WritesTo u → a.Delivers w content →
      (∀ o, w.store.find? a.area u = some o → o.kind = .file) →
      ∃ answer v, a.perform w = (.ok answer, v) ∧ answer.place? = some u := by
  refine ⟨fun c => Uri.parse_text (Uri.isWritten_ofNames _),
    fun f => Uri.parse_text (Uri.isWritten_ofNames _), ?_,
    fun a w content u => Ask.exists_perform_eq_ok⟩
  intro a w v answer u hdone hplace hreturns
  obtain ⟨hanswered, hwrote⟩ := Ask.place_eq_ok hdone hplace
  have hparse : a.ReadsBack → Uri.parse u.text = .ok u := fun ha =>
    hanswered.elim (fun hu => Uri.parse_text (Ask.isWritten_of_writesTo ha hu)) (hreturns u)
  refine ⟨hparse, ?_, ?_⟩
  · rintro file rfl
    cases hplace
    exact NamespaceFile.read_toValue (hparse (Ask.readsBack_of_file hdone))
  · intro content hcontent hnone hget d hd
    obtain ⟨uri, hwrote⟩ := hwrote content hcontent
    have hu : u = uri := hwrote.answered.resolve_right (by simp [hnone])
    have hread : ∀ given, Uri.letIn given = .ok u → (d.read given v).1 = .ok content := by
      intro given hgiven
      rw [Client.read_of_letIn hgiven (by rw [hwrote.faults, hget]), hd, hu, hwrote.stored]
    exact ⟨fun ha => hread _ (hparse ha), hread _ (Uri.ofUrl_toUrl u), hread _ rfl⟩

/-- Characters that mean something in a reference mean nothing in a path, and the file is found. -/
theorem handed_out_reads_back_of_marks :
    let f := Client.daily.ownFiles
    let content : ByteArray := ⟨#[1, 2, 3]⟩
    let put := Ask.files f (.put "/50 %2e/?#.csv" (.ofBytes content) .overwrite)
    let w := World.start .noon2024
    ∃ file v, put.perform w = (.ok (.file file), v) ∧
      file.uri.text = "kestra:///open/_files/50%20%252e/%3F%23.csv" ∧
      Uri.parse file.uri.text = .ok file.uri ∧ NamespaceFile.read file.toValue = some file ∧
      (Client.daily.read (some file.uri.text) v).1 = .ok content := by
  intro f content put w
  obtain ⟨-, -, hreads, hwrites⟩ := handed_out_reads_back
  have hplace : f.uriOf "/50 %2e/?#.csv" =
      .ok (.ofNames ["open", "_files", "50 %2e", "?#.csv"]) := by
    decide +kernel
  have hdelivers : put.Delivers w content := ⟨rfl, Or.inl rfl⟩
  obtain ⟨answer, v, hdone, hanswer⟩ := hwrites put w content _ rfl hplace hdelivers nofun
  obtain ⟨file, -, rfl⟩ := Action.map_eq_ok_iff.1 hdone
  obtain ⟨hparse, hvalue, hcontent⟩ := hreads put w v _ _ hdone rfl nofun
  refine ⟨file, v, hdone, ?_, hparse trivial, hvalue file rfl, ?_⟩
  · rw [Option.some.inj hanswer]
    decide +kernel
  · exact (hcontent content hdelivers rfl rfl .daily rfl).1 trivial

end Depot
