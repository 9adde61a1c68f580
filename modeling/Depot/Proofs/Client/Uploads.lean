import Depot.Proofs.Client.HandedOut
import Depot.Proofs.Disk

/-!
# Local files that are handed over

Whatever a local file is handed over as, it goes to the place that a name or identifiers lead to, and
comes from its path like any other source (`Upload.write`). That it is taken away in the end makes no
difference to what comes of it (`Upload.perform_eq`), and nothing that comes of it keeps it from
being taken away. What is left of the file, and where its content is then, is told by
`uploads_take_the_file`.
-/

namespace Depot

/-! ## What a path has to give -/

/-- A local file as a source: its content, or why it cannot be read. -/
def Disk.source (d : Disk) (path : LocalPath) : Source :=
  match d.read path with
  | .ok content => .ofBytes content
  | .error e => ⟨.empty, some e⟩

theorem Disk.readAll_source (d : Disk) (path : LocalPath) :
    (d.source path).readAll = d.read path := by
  unfold source
  cases d.read path <;> rfl

/-! ## Uploads -/

/-- The disk is no matter of the backend. -/
theorem Backend.disk_write (area : Area) (uri : Uri) (content : ByteArray) (w : World) :
    (Backend.write area uri content w).2.disk = w.disk := by
  cases hfails : w.faults.failing .put with
  | some e => rw [Backend.write, front_of_some hfails]
  | none =>
    rw [Backend.write, front_of_none hfails, Action.bind_apply, Vault.write, Vault.serve]
    dsimp only
    cases w.store.write w.clock.millis area uri content <;> rfl

/-- What a local file is handed over as: a file of the run, under a name or its own, or the entry of
a cache. -/
inductive Upload where
  | file (name : Option String)
  | entry (cacheId : String) (objectId : Option String)

namespace Upload

variable {c : Client} {path : LocalPath} {w : World}

/-- Hands over the local file at a path. -/
def perform (c : Client) (path : LocalPath) : Upload → Action Uri
  | file name => c.putLocal path name
  | entry cacheId objectId => c.putCache path cacheId objectId

/-- Where the local file at a path is to go. -/
def place (c : Client) (path : LocalPath) : Upload → Except BadReference Uri
  | file name => (Client.handedName path name).bind c.context.baseUri.resolve
  | entry cacheId objectId => c.context.cacheUri cacheId objectId

/-- The upload by itself: what the path has to give is written where it is to go, and the local file
is let be. -/
def write (c : Client) (path : LocalPath) (upload : Upload) : Action Uri := do
  let uri ← Action.guarded (upload.place c path)
  let source ← Action.observe (·.disk.source path)
  c.writeAt source uri

/-- A local file is written as a source is that has the same to give. -/
theorem readLocal_bind_writeAt (c : Client) (path : LocalPath) (uri : Uri) (w : World) :
    (Client.readLocal path >>= fun content => c.writeAt (.ofBytes content) uri) w =
      c.writeAt (w.disk.source path) uri w := by
  have hread : (Client.readLocal path >>= fun content => c.writeAt (.ofBytes content) uri) w =
      (Action.ofExcept (w.disk.read path) >>= fun content => c.writeAt (.ofBytes content) uri) w :=
    rfl
  rw [hread, Client.writeAt, Disk.readAll_source]
  rfl

variable {upload : Upload} {u : Uri} {e : BadReference}

theorem write_of_place (h : upload.place c path = .ok u) (w : World) :
    upload.write c path w = c.writeAt (w.disk.source path) u w :=
  Action.guarded_bind_of_ok _ w h

theorem write_of_refused (h : upload.place c path = .error e) (w : World) :
    upload.write c path w = (.error (.badReference e), w) :=
  Action.guarded_bind_of_error _ w h

/-- The file is taken away, and but for that it is the upload by itself. -/
theorem perform_eq (upload : Upload) (c : Client) (path : LocalPath) :
    upload.perform c path = Client.consuming path (upload.write c path) := by
  cases upload with
  | file name =>
    refine congrArg (Client.consuming path) (funext fun w => ?_)
    cases hname : Client.handedName path name with
    | error e =>
      rw [write_of_refused (e := e) (by rw [place, hname]; rfl)]
      exact Action.guarded_bind_of_error _ w hname
    | ok n =>
      refine (Action.guarded_bind_of_ok _ w hname).trans ?_
      cases huri : c.context.baseUri.resolve n with
      | error e =>
        rw [write_of_refused (e := e) (by rw [place, hname]; exact huri)]
        rfl
      | ok uri =>
        rw [write_of_place (u := uri) (by rw [place, hname]; exact huri), ← readLocal_bind_writeAt]
        rfl
  | entry cacheId objectId =>
    refine congrArg (Client.consuming path) (funext fun w => ?_)
    cases huri : c.context.cacheUri cacheId objectId with
    | error e =>
      have hplace : (entry cacheId objectId).place c path = .error e := huri
      rw [write_of_refused hplace]
      rfl
    | ok uri =>
      have hplace : (entry cacheId objectId).place c path = .ok uri := huri
      rw [write_of_place hplace, ← readLocal_bind_writeAt]
      rfl

/-- By itself an upload changes nothing on the disk. -/
theorem disk_write (upload : Upload) (c : Client) (path : LocalPath) (w : World) :
    (upload.write c path w).2.disk = w.disk := by
  cases huri : upload.place c path with
  | error e => rw [write_of_refused huri]
  | ok uri =>
    rw [write_of_place huri, Client.writeAt, Disk.readAll_source]
    cases w.disk.read path with
    | error e => rfl
    | ok content => exact Backend.disk_write c.area uri content w

/-- Where the upload by itself gets through, the file at the path is at its place. -/
theorem write_eq_ok {v : World} {answer : Uri} (h : upload.write c path w = (.ok answer, v)) :
    ∃ uri content, upload.place c path = .ok uri ∧ w.disk.LeadsTo path (.file content) ∧
      w.Wrote v c.area uri content answer := by
  obtain ⟨uri, huri, hdone⟩ := Action.guarded_bind_eq_ok_iff.1 h
  obtain ⟨content, hcontent, hwrote⟩ := Client.writeAt_eq_ok hdone
  rw [Disk.readAll_source] at hcontent
  exact ⟨uri, content, huri, Disk.read_eq_ok_iff.1 hcontent, hwrote⟩

end Upload

/-- A file or a link that is handed over is taken away, whatever comes of it; everything else on the
disk stays, and so does what a link has led to. What comes of it, and what is stored then, is what
comes of the upload by itself. If that gets through, the content that the path led to is stored where
it was to go. -/
theorem uploads_take_the_file (upload : Upload) (c : Client) (path : LocalPath) (w : World)
    (entry : LocalEntry) (hentry : w.disk.find? path = some entry) (hkind : entry ≠ .directory) :
    let done := upload.perform c path w
    let alone := upload.write c path w
    (∀ other, done.2.disk.find? other = if other = path then none else w.disk.find? other) ∧
    (∀ target e, entry = .link target → w.disk.LeadsTo target e →
      done.2.disk.LeadsTo target e) ∧
    done.1 = alone.1 ∧ done.2 = { alone.2 with disk := done.2.disk } ∧
    ∀ answer, done.1 = .ok answer → ∃ uri content, upload.place c path = .ok uri ∧
      w.disk.LeadsTo path (.file content) ∧
      (answer = uri ∨ w.faults.putReturns = some answer) ∧
        done.2.store.read c.area uri = .ok content := by
  intro done alone
  have hdone : done = (alone.1, { alone.2 with disk := w.disk.unlink path }) := by
    show upload.perform c path w = _
    rw [Upload.perform_eq, ← upload.disk_write c path w]
    rfl
  rw [hdone]
  refine ⟨Disk.find?_unlink hentry hkind, ?_, rfl, rfl, ?_⟩
  · rintro target e rfl htarget
    exact Disk.leadsTo_unlink_of_link hentry htarget
  · intro answer hanswer
    obtain ⟨uri, content, huri, hcontent, hwrote⟩ := Upload.write_eq_ok (Prod.ext hanswer rfl)
    exact ⟨uri, content, huri, hcontent, hwrote.answered, hwrote.stored⟩

/-- A link to a report is handed over under its own name: the link is gone, and the report is where
it was and where the link was to go. -/
theorem uploads_take_the_file_of_link :
    let c := Client.daily
    let link := LocalPath.ofString "out/latest.csv"
    let report := LocalPath.ofString "out/report.csv"
    let content : ByteArray := ⟨#[1, 2, 3]⟩
    let disk := (Disk.empty.put report (.file content)).put link (.link report)
    let w := { World.start .noon2024 with disk }
    let place := c.context.baseUri.join ["latest.csv"]
    ∃ v, c.putLocal link none w = (.ok place, v) ∧ v.disk.find? link = none ∧
      v.disk.LeadsTo report (.file content) ∧ v.store.read c.area place = .ok content := by
  intro c link report content disk w place
  have hreport : w.disk.LeadsTo report (.file content) :=
    ⟨[report], .last (by decide) rfl nofun⟩
  have hlink : w.disk.LeadsTo link (.file content) :=
    ⟨[link, report], .link (by decide) rfl (.last (by decide) rfl nofun)⟩
  have hanswer : (c.putLocal link none w).1 = .ok place := by decide +kernel
  have hplace : (Upload.file none).place c link = .ok place := by decide +kernel
  obtain ⟨hdisk, htarget, -, -, hstored⟩ :=
    uploads_take_the_file (.file none) c link w (.link report) rfl nofun
  obtain ⟨uri, bytes, huri, hbytes, -, hread⟩ := hstored place hanswer
  -- The link leads to one file, and the name to one place.
  obtain ⟨trail, htrail⟩ := hlink
  obtain ⟨others, hothers⟩ := hbytes
  cases (htrail.unique hothers).2
  cases hplace.symm.trans huri
  exact ⟨_, Prod.ext hanswer rfl, (hdisk link).trans (if_pos rfl), htarget report _ rfl hreport,
    hread⟩

end Depot
