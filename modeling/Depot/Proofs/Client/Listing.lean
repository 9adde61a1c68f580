import Depot.Proofs.Action.Calls
import Depot.Proofs.Client.Ask
import Depot.Proofs.Layout.Areas
import Depot.Proofs.Store.Listing

/-!
# Listings of the files of a namespace

The files of a namespace are reported by their paths from the root, so that a listing can be
reported if and only if all that is chosen from it is at the root or below it (`all_isOk_iff`).
Files always are. A directory that only leads to an object is named again from what is read in the
object's reference, and the new name may lead elsewhere: clients may write at any reference that is
let in, and of `.%09.`, which is read as two dots with a tab in between, only the dots are written.
What listings hold in any store that clients can bring about, and when they can be reported, is told
by `listing_stays_below`.
-/

namespace Depot

/-! ## Reporting files -/

namespace NamespaceFiles

variable {f : NamespaceFiles} {uri start : Uri} {directory directories : Bool}
  {path : Option String} {w : World}

theorem exists_fileAt_eq_ok_iff :
    (∃ file, f.fileAt uri directory = .ok file) ↔ uri.startsWith f.root = true := by
  unfold fileAt Uri.relativeTo
  by_cases h : uri.startsWith f.root = true <;> simp [h]

/-- Listings start at the root or below it. -/
theorem startsWith_root_of_startOf (h : f.startOf path = .ok start) :
    start.startsWith f.root = true := by
  unfold startOf at h
  cases path with
  | none =>
    have hs : f.root = start := Except.ok.inj h
    rw [← hs]
    exact Store.startsWith_self f.root
  | some p =>
    dsimp only at h
    by_cases hp : trimPath p = ""
    · rw [if_pos hp] at h
      have hs : f.root = start := Except.ok.inj h
      rw [← hs]
      exact Store.startsWith_self f.root
    · rw [if_neg hp] at h
      exact startsWith_root_of_uriOf h

/-- What is chosen from a listing is reported by its path. -/
theorem all_apply (hstart : f.startOf path = .ok start) (hfaults : w.faults = .none) :
    (f.all path directories w).1 =
      (((w.store.list f.area start).filter fun e => directories || !e.attributes.isDirectory).mapM
        fun e => f.fileAt e.uri e.attributes.isDirectory).mapError .badReference := by
  have hlist : Backend.list f.area start w =
      (.ok (w.store.list f.area start), w.serving w.store) :=
    Backend.list_apply (by rw [hfaults]; rfl) (by rw [hfaults]; rfl)
  rw [all, Action.guarded_bind_apply, hstart]
  dsimp only
  rw [Action.bind_apply, hlist]
  rfl

/-- A listing can be reported if and only if nothing in it is outside of the root. -/
theorem all_isOk_iff (hstart : f.startOf path = .ok start) (hfaults : w.faults = .none) :
    (∃ files, (f.all path directories w).1 = .ok files) ↔
      ∀ e ∈ w.store.list f.area start, e.attributes.isDirectory = false ∨ directories = true →
        e.uri.startsWith f.root = true := by
  rw [all_apply hstart hfaults]
  simp only [mapError_eq_ok_iff]
  rw [exists_mapM_eq_ok_iff]
  simp only [exists_fileAt_eq_ok_iff, List.mem_filter, Bool.or_eq_true, Bool.not_eq_true', and_imp]
  exact forall₂_congr fun e _ => imp_congr_left or_comm

end NamespaceFiles

/-! ## What clients bring about -/

/-- Whatever clients do, the way to every object is steady unless a client has been given another
one. -/
theorem World.steadyIn_after {w : World} {events : List World.Event} (hw : w.store = .empty)
    (hgiven : ∀ c source given u, .ask (.client c (.putAt source given)) ∈ events →
      Uri.letIn given = .ok u → u.Steady) (area : Area) :
    (w.after events).store.SteadyIn area := by
  have hkeys : (w.after events).store.AllKeys fun k => k.uri.Steady := by
    refine allKeys_after hw fun a u ha hu => ?_
    rcases Ask.exists_way_of_writesTo hu with ⟨c, source, given, rfl⟩ | ⟨names, hnames, rfl⟩
    · exact hgiven c source given u ha hu
    · exact Uri.steady_ofNames hnames
  intro u hu
  obtain ⟨o, ho⟩ := Store.contains_iff.1 hu
  exact hkeys.of_find? ho

/-- Whatever clients have done since nothing was stored: files are listed below what is listed, and
so is all else if and only if the ways to all objects are steady. All ways are if the references
that clients were given to write at are; and then all files of a namespace can be reported with
their directories, as they always can without. -/
theorem listing_stays_below (w : World) (events : List World.Event) :
    let s := ({ w with store := .empty }.after events).store
    (∀ area base, ∀ e ∈ s.list area base, e.attributes.isDirectory = false →
      e.uri.IsBelow base) ∧
    (∀ area, (∀ base, ∀ e ∈ s.list area base, e.uri.IsBelow base) ↔ s.SteadyIn area) ∧
    ((∀ c source given u, .ask (.client c (.putAt source given)) ∈ events →
      Uri.letIn given = .ok u → u.Steady) → ∀ area, s.SteadyIn area) ∧
    ∀ (f : NamespaceFiles) path start directories (v : World), f.startOf path = .ok start →
      v.store = s → v.faults = .none → directories = false ∨ s.SteadyIn f.area →
        ∃ files, (f.all path directories v).1 = .ok files := by
  intro s
  refine ⟨fun area base e he => Store.isBelow_of_file he, fun area => Store.list_isBelow_iff,
    World.steadyIn_after rfl, ?_⟩
  intro f path start directories v hstart hstore hfaults hchosen
  rw [NamespaceFiles.all_isOk_iff hstart hfaults, hstore]
  intro e he hkind
  have hbelow : e.uri.IsBelow start := by
    rcases hchosen with hfiles | hsteady
    · exact Store.isBelow_of_file he (hkind.resolve_right (by simp [hfiles]))
    · exact Store.isBelow_of_steadyIn hsteady he
  exact Uri.startsWith_trans hbelow.1 (NamespaceFiles.startsWith_root_of_startOf hstart)

/-- A client may write at a reference with a directory whose name is two dots and a tab in between.
The listing of the root has the place above the root instead, and cannot be reported. -/
theorem listing_leaves_base :
    let c := Client.daily
    let f := c.ownFiles
    let put : Client.Request := .putAt (.ofBytes .empty) (some "kestra:///open/_files/.%09./x")
    let w := (World.start .noon2024).after [.ask (.client c put)]
    (∃ e ∈ w.store.list f.area f.root, ¬e.uri.IsBelow f.root) ∧
      ∃ e, (f.all none true w).1 = .error (.badReference e) := by
  intro c f put w
  have hout : ¬∀ e ∈ w.store.list f.area f.root, e.uri.startsWith f.root = true := by
    decide +kernel
  constructor
  · by_contra h
    refine hout fun e he => ?_
    by_contra hroot
    exact h ⟨e, he, fun hbelow => hroot hbelow.1⟩
  · -- An answer of files would mean that all of the listing is at the root or below it.
    cases hall : (f.all none true w).1 with
    | ok files =>
      have hall' := (NamespaceFiles.all_isOk_iff rfl rfl).1 ⟨files, hall⟩
      exact absurd (fun e he => hall' e he (Or.inr rfl)) hout
    | error e =>
      rw [NamespaceFiles.all_apply rfl rfl] at hall
      obtain ⟨reason, -, rfl⟩ := mapError_eq_error_iff.1 hall
      exact ⟨reason, rfl⟩

end Depot
