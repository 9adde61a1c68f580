import Depot.Proofs.Client.HandedOut
import Depot.Proofs.Client.Paths

/-!
# Steps of the files of namespaces

What a request to the files of a namespace can make of a store, whichever calls fail: it leaves the
store as it is, puts a file or the mark of a directory where its path leads to, or removes what is
there (`NamespaceFiles.step_perform`). Where nothing is wrong, what is at a place decides what
becomes of a file that is put there (`NamespaceFiles.put_apply`).

When nothing but the files of namespaces has been asked for anything, all objects are where paths
lead to, below the roots of their namespaces (`World.inFiles_after`), and all files can be listed
with their directories (`NamespaceFiles.all_eq_map`).
-/

namespace Depot

/-! ## What a call leaves -/

namespace Backend

variable {p : Store → Prop} {w : World} {area : Area} {uri : Uri}

/-- A write that gets through puts a file over what was there. -/
theorem write_store {content : ByteArray} (hw : p w.store)
    (hput : ∀ o, Store.writtenOver w.clock.millis uri content (w.store.find? area uri) = .ok o →
      p (w.store.insert area uri o)) :
    p (write area uri content w).2.store := by
  cases hfails : w.faults.failing .put with
  | some e =>
    rw [write, front_of_some hfails]
    exact hw
  | none =>
    rw [write, front_of_none hfails,
      Action.Looks.store_bind fun _ => .bind (.observe _) fun _ => .pure _]
    simp only [Vault.write, Vault.serve, Store.write_eq]
    cases ho : Store.writtenOver w.clock.millis uri content (w.store.find? area uri) with
    | error e => exact hw
    | ok o => exact hput o ho

/-- The making of a directory that gets through puts a mark where nothing was. -/
theorem makeDirectory_store (hw : p w.store)
    (hmark : w.store.find? area uri = none →
      p (w.store.insert area uri ⟨.empty, .directory, w.clock.millis, w.clock.millis⟩)) :
    p (makeDirectory area uri w).2.store := by
  cases hfails : w.faults.failing .makeDirectory with
  | some e =>
    rw [makeDirectory, front_of_some hfails]
    exact hw
  | none =>
    rw [makeDirectory_apply hfails]
    cases hold : w.store.find? area uri with
    | none => exact hmark hold
    | some o => cases hkind : o.kind <;> simpa [Store.madeOver, hkind] using hw

theorem remove_store (hw : p w.store) (hremove : p (w.store.remove area uri).2) :
    p (remove area uri w).2.store := by
  cases hfails : w.faults.failing .delete with
  | some e =>
    rw [remove, front_of_some hfails]
    exact hw
  | none =>
    rw [remove_apply hfails]
    exact hremove

/-- Where nothing is wrong a write answers and leaves what the store makes of it. -/
theorem write_apply_store (hw : w.faults = .none) (content : ByteArray) :
    write area uri content w =
      match w.store.write w.clock.millis area uri content with
      | .ok s => (.ok uri, w.serving s)
      | .error e => (.error e, w.serving w.store) := by
  rw [write_apply (by rw [hw]; rfl) (by rw [hw]; rfl), Store.write_eq]
  cases Store.writtenOver w.clock.millis uri content (w.store.find? area uri) <;> rfl

end Backend

namespace NamespaceFiles

variable {f : NamespaceFiles}

/-! ## Steps -/

/-- What a request makes of a store, whether it fails or not. -/
inductive Step (f : NamespaceFiles) (s : Store) : Request → Store → Prop
  | stay (r : Request) : Step f s r s
  | put {path source policy u content now o} (hu : f.uriOf path = .ok u)
      (hcontent : source.readAll = .ok content)
      (ho : Store.writtenOver now u content (s.find? f.area u) = .ok o) :
      Step f s (.put path source policy) (s.insert f.area u o)
  | mark {path u} (now : Int) (hu : f.uriOf path = .ok u) (hfree : s.find? f.area u = none) :
      Step f s (.makeDirectory path) (s.insert f.area u ⟨.empty, .directory, now, now⟩)
  | remove {path u} (hu : f.uriOf path = .ok u) :
      Step f s (.remove path) (s.remove f.area u).2

theorem looks_askTaken (f : NamespaceFiles) (policy : OnConflict) (uri : Uri) :
    Action.Looks (f.askTaken policy uri) := by
  unfold askTaken
  split
  · exact .pure _
  · exact .contains

/-- A source that is complete is written where nothing is to be left alone. -/
theorem putOver_of_readAll {path : String} {source : Source} {policy : OnConflict} {u : Uri}
    {content : ByteArray} (hcontent : source.readAll = .ok content) (w : World) :
    f.putOver path source policy u false w =
      (Backend.write f.area u content >>= fun x => Action.guarded (f.fileAt x false)) w := by
  rw [putOver, hcontent]
  rfl

theorem step_putOver {path : String} {source : Source} {policy : OnConflict} {u : Uri}
    (hu : f.uriOf path = .ok u) (taken : Bool) (w : World) :
    f.Step w.store (.put path source policy) (f.putOver path source policy u taken w).2.store := by
  cases taken with
  | true => cases policy <;> exact .stay _
  | false =>
    cases hcontent : source.readAll with
    | error e =>
      rw [putOver, hcontent]
      exact .stay _
    | ok content =>
      rw [putOver_of_readAll hcontent, Action.Looks.store_bind fun _ => .guarded _]
      exact Backend.write_store (p := f.Step w.store _) (.stay _) fun o ho => .put hu hcontent ho

/-- Whichever calls fail, a request makes one step at most. -/
theorem step_perform (f : NamespaceFiles) (r : Request) (w : World) :
    f.Step w.store r (r.perform f w).2.store := by
  have hlook : (Ask.files f r).IsLook → f.Step w.store r (r.perform f w).2.store := by
    intro h
    have hstore : (r.perform f w).2.store = w.store := (Ask.looks h).store_eq w
    rw [hstore]
    exact .stay r
  cases r with
  | all path directories => exact hlook trivial
  | find includes excludes => exact hlook trivial
  | contains path => exact hlook trivial
  | read path => exact hlook trivial
  | put path source policy =>
    rw [Request.perform, Action.map_apply, put_eq]
    refine Action.guarded_bind_store (p := f.Step w.store _) (.stay _) fun u hu => ?_
    refine (f.looks_askTaken policy u).bind_store (.stay _) fun taken v hv => ?_
    rw [← hv]
    exact step_putOver hu taken v
  | makeDirectory path =>
    rw [Request.perform, Action.map_apply, makeDirectory]
    refine Action.guarded_bind_store (p := f.Step w.store _) (.stay _) fun u hu => ?_
    rw [Action.Looks.store_bind fun _ => .pure _]
    exact Backend.makeDirectory_store (p := f.Step w.store _) (.stay _) fun hfree =>
      .mark _ hu hfree
  | remove path =>
    rw [Request.perform, Action.map_apply, NamespaceFiles.remove]
    refine Action.guarded_bind_store (p := f.Step w.store _) (.stay _) fun u hu => ?_
    exact Backend.remove_store (p := f.Step w.store _) (.stay _) (.remove hu)

/-! ## Putting a file -/

section Put

variable {path : String} {source : Source} {policy : OnConflict} {u : Uri} {w : World}
  {file : NamespaceFile}

/-- What a file that is put at a place makes of a store, by what is there. -/
def putIn (f : NamespaceFiles) (s : Store) (now : Int) (path : String) (source : Source)
    (policy : OnConflict) (u : Uri) : Except Failure Store :=
  if policy ≠ .overwrite ∧ s.contains f.area u = true then
    if policy = .error then .error (.alreadyExists (.namespaceFile path f.area.space.text))
    else .ok s
  else source.readAll.bind (s.write now f.area u)

theorem putIn_of_free {s : Store} {now : Int} {content : ByteArray}
    (hfree : s.find? f.area u = none) (hcontent : source.readAll = .ok content) :
    f.putIn s now path source policy u =
      .ok (s.insert f.area u ⟨content, .file, now, now⟩) := by
  rw [putIn, if_neg (by simp [Store.contains_eq_false_iff.2 hfree]), hcontent]
  simp only [Except.bind, Store.write, hfree]

theorem putOver_false_apply (hw : w.faults = .none) (hfile : f.fileAt u false = .ok file) :
    ∃ served, f.putOver path source policy u false w =
      match source.readAll.bind (w.store.write w.clock.millis f.area u) with
      | .ok s => (.ok file, { w with served, store := s })
      | .error e => (.error e, { w with served }) := by
  cases hcontent : source.readAll with
  | error e =>
    refine ⟨w.served, ?_⟩
    rw [putOver, hcontent]
    rfl
  | ok content =>
    refine ⟨w.served + 1, ?_⟩
    rw [putOver_of_readAll hcontent, Action.bind_apply, Backend.write_apply_store hw, Except.bind]
    cases w.store.write w.clock.millis f.area u content with
    | error e => rfl
    | ok s =>
      dsimp only
      rw [hfile]
      rfl

/-- Where nothing is wrong, what is at the place decides what becomes of a file that is put
there. -/
theorem put_apply (source : Source) (policy : OnConflict) (hw : w.faults = .none)
    (hu : f.uriOf path = .ok u) (hfile : f.fileAt u false = .ok file) :
    ∃ served, f.put path source policy w =
      match f.putIn w.store w.clock.millis path source policy u with
      | .ok s => (.ok file, { w with served, store := s })
      | .error e => (.error e, { w with served }) := by
  rw [put_eq, Action.guarded_bind_of_ok _ w hu, Action.bind_apply, askTaken, putIn]
  by_cases hover : policy = .overwrite
  · rw [if_pos hover, if_neg fun h => h.1 hover]
    exact putOver_false_apply hw hfile
  · rw [if_neg hover, Backend.contains_apply (by rw [hw]; rfl)]
    dsimp only
    cases hthere : w.store.contains f.area u with
    | false =>
      rw [if_neg (by simp)]
      have hasked : (w.serving w.store).faults = .none := hw
      exact putOver_false_apply hasked hfile
    | true =>
      rw [if_pos ⟨hover, rfl⟩]
      refine ⟨w.served + 1, ?_⟩
      cases policy with
      | overwrite => exact absurd rfl hover
      | error => rfl
      | skip =>
        rw [putOver, hfile]
        rfl

end Put

/-! ## Where paths lead -/

/-- Paths lead below the root. -/
theorem isBelow_root_of_uriOf {path : String} {u : Uri} (h : f.uriOf path = .ok u) :
    u.IsBelow f.root := by
  obtain ⟨hpieces, rfl⟩ := uriOf_eq_ok_iff_pieces.1 h
  refine (Uri.isBelow_ofNames (fun name hname => ?_) isPart_of_mem_rootNames).2 ⟨_, ?_, rfl⟩
  · exact (isPiece_of_mem_rootNames_append hpieces name hname).1
  · exact Text.pieces_ne_nil '/' _

end NamespaceFiles

/-! ## Stores that hold files of namespaces only -/

/-- Every object is where a path leads to, below the root of the files of its namespace. -/
def Store.InFiles (s : Store) : Prop :=
  s.AllKeys fun k => k.uri.IsNamed ∧ k.uri.IsBelow k.area.space.filesUri

theorem Store.InFiles.namedIn {s : Store} (hs : s.InFiles) (area : Area) : s.NamedIn area := by
  intro u hu
  obtain ⟨o, ho⟩ := contains_iff.1 hu
  exact (hs.of_find? ho).1

/-- Nothing but the files of namespaces is asked for anything. -/
def World.FilesOnly (events : List World.Event) : Prop :=
  ∀ c r, .ask (.client c r) ∉ events

theorem World.inFiles_after {w : World} {events : List World.Event} (hw : w.store = .empty)
    (hevents : FilesOnly events) : (w.after events).store.InFiles := by
  refine allKeys_after hw fun a u ha hu => ?_
  cases a with
  | client c r => exact absurd ha (hevents c r)
  | files f r =>
    have hplace : ∀ {path}, f.uriOf path = .ok u → u.IsNamed ∧ u.IsBelow f.root :=
      fun h => ⟨NamespaceFiles.isNamed_of_uriOf h, NamespaceFiles.isBelow_root_of_uriOf h⟩
    cases r with
    | put path source policy => exact hplace hu
    | makeDirectory path => exact hplace hu
    | _ => exact hu.elim

namespace NamespaceFiles

variable {f : NamespaceFiles} {w : World} {path : Option String} {start : Uri}

/-- All that is listed can be reported. -/
theorem all_eq_map (hs : w.store.NamedIn f.area) (hstart : f.startOf path = .ok start)
    (hfaults : w.faults = .none) :
    (f.all path true w).1 = .ok ((w.store.list f.area start).map f.fileOf) := by
  obtain ⟨names, hne, hnames, rfl⟩ := exists_names_of_startOf hstart
  have hmapM := mapM_eq_ok_map fun e (he : e ∈ w.store.list f.area (.ofNames names)) =>
    fileAt_eq_fileOf (Uri.startsWith_trans
      ((Store.mem_list_iff_of_named hs hne hnames).1 he).1.1 (startsWith_root_of_startOf hstart))
  rw [all_apply hstart hfaults]
  simp only [Bool.true_or, List.filter_true]
  exact congrArg (Except.mapError Failure.badReference) hmapM

end NamespaceFiles

end Depot
