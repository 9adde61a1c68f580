import Depot.Proofs.Client.Ask
import Depot.Proofs.Store.Tree

/-!
# Listings of what names have been given to

Names and paths lead to named references only. So unless a client has been given a reference to
write at, all objects are named, and every listing is the tree of what is stored
(`World.list_tree`).
-/

namespace Depot

namespace World

variable {w : World} {events : List Event}

/-- What holds of named references holds of all objects if it holds of the references that clients
have been given to write at. -/
theorem allKeys_after_of_named {p : Store.Key → Prop} (hw : w.store = .empty)
    (hnamed : ∀ area u, u.IsNamed → p ⟨area, u⟩)
    (hgiven : ∀ c source given u, .ask (.client c (.putAt source given)) ∈ events →
      Uri.letIn given = .ok u → p ⟨c.area, u⟩) :
    (w.after events).store.AllKeys p := by
  refine allKeys_after hw fun a u ha hu => ?_
  rcases Ask.isNamed_of_writesTo hu with ⟨c, source, given, rfl⟩ | hu
  · exact hgiven c source given u ha hu
  · exact hnamed a.area u hu

/-- Whatever clients have done by names and paths since nothing was stored: a listing of the files
of a namespace, or of those below a path, is in the order of the references and shows the tree of
what is stored. It shows the objects as they are, and a directory for every place that leads to one
and is no object, once and however the place is written, with the times of what is below it. -/
theorem list_tree (w : World) (events : List Event)
    (hevents : ∀ c source given, .ask (.client c (.putAt source given)) ∉ events) (area : Area)
    (f : NamespaceFiles) (path : Option String) (base : Uri) (hbase : f.startOf path = .ok base) :
    let s := ({ w with store := .empty }.after events).store
    (s.list area base).Pairwise (fun d e => d.uri.text < e.uri.text) ∧
    (∀ e, e ∈ s.list area base ↔ e.uri.IsBelow base ∧
      (s.attributes area e.uri = .ok e.attributes ∨
        s.contains area e.uri = false ∧ e.uri.IsNamed ∧
          e.attributes.Spans e.uri (s.objectsUnder area e.uri))) ∧
    ∀ dir : Uri, dir.IsBelow base → (s.objectsUnder area dir).Nonempty →
      ∃! e, e ∈ s.list area base ∧ e.uri.segments = dir.segments := by
  intro s
  have hkeys : s.AllKeys fun k => k.uri.IsNamed :=
    allKeys_after_of_named rfl (fun _ _ hu => hu) fun c source given _ ha _ =>
      absurd ha (hevents c source given)
  have hs : s.NamedIn area := by
    intro u hu
    obtain ⟨o, ho⟩ := Store.contains_iff.1 hu
    exact hkeys.of_find? ho
  obtain ⟨names, hne, hnames, rfl⟩ := NamespaceFiles.exists_names_of_startOf hbase
  exact ⟨Store.ordered_list s area _, fun e => Store.mem_list_iff_of_named hs hne hnames,
    fun dir => Store.existsUnique_mem_list hs hne hnames⟩

/-- A directory that has not been made is as old as the older of two files in it, and was changed
when the younger one was. -/
theorem list_tree_of_docs :
    let f := Client.daily.ownFiles
    let put := fun path => Event.ask (.files f (.put path (.ofBytes .empty) .overwrite))
    let later : Instant := ⟨1704110405 * Instant.nanosPerSecond, by decide⟩
    let events := [put "docs/b.md", .setClock later, put "docs/a.md"]
    let s := ({ start .noon2024 with store := .empty }.after events).store
    let docs : Entry := ⟨.ofNames ["open", "_files", "docs"],
      ⟨"docs", .directory, 0, 1704110400000, 1704110405000⟩⟩
    docs ∈ s.list f.area f.root ∧
      docs.attributes.Spans docs.uri (s.objectsUnder f.area docs.uri) := by
  intro f put later events s docs
  have hevents : ∀ c source given, .ask (.client c (.putAt source given)) ∉ events := by
    simp [events, put]
  have hlisted : docs ∈ s.list f.area f.root := by decide +kernel
  obtain ⟨-, htree, -⟩ := list_tree (start .noon2024) events hevents f.area f none f.root rfl
  obtain ⟨-, hobject | ⟨-, -, hspans⟩⟩ := (htree docs).1 hlisted
  · have hnone : s.find? f.area docs.uri = none := by decide +kernel
    rw [Store.attributes, hnone] at hobject
    cases hobject
  · exact ⟨hlisted, hspans⟩

end World

end Depot
