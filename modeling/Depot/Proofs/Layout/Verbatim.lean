import Depot.Proofs.Layout.Named

/-!
# The layout as it is written

Names are written as they are: the characters that they are made of are kept in a path, and of all
names only one dot and two dots are steps (`Uri.written_of_isName`). Put below the root one after
the other, each is one segment with one slash before it, whatever has been put there before
(`Uri.text_ofNames`, `Uri.isVerbatim_ofNames`). As everything in the layout is a name, its
references can be read off its rules (`layout_verbatim`).
-/

namespace Depot

open Url

/-! ## Names in a path -/

/-- The characters of names stand for themselves. -/
theorem Url.Percent.inName_of_isNameChar {c : Char} (h : isNameChar c = true) : inName c = true :=
  Text.of_all_ascii (p := fun c => isNameChar c = true → inName c = true)
    (by decide) (toNat_lt_of_isNameChar h) h

/-- Nothing of a name is escaped. -/
theorem Uri.written_of_isName {name : String} (h : IsName name) : written name = name := by
  have hkept : ∀ c ∈ name.toList, Percent.inName c = true :=
    fun c hc => Percent.inName_of_isNameChar (h.2 c hc)
  rw [written, Percent.encode_of_keeps hkept, String.ofList_toList]

namespace Url.Path

variable {p : Path} {names : List String}

/-- The path from the root through parts has their segments and no other. -/
theorem map_text_append_root (hne : names ≠ []) (h : ∀ name ∈ names, IsPart name) :
    (append [.empty] names).map Segment.text = names.map Uri.written := by
  have htrim : trimEnd [.empty] = [.empty] := rfl
  obtain ⟨q, htexts, hq⟩ := exists_foldl_appendName hne h [.empty]
  rw [append, htrim, hq, if_pos rfl, List.nil_append, htexts]

/-- A path is its segments with one slash before each. -/
theorem chars_eq_join (hne : p ≠ []) :
    p.chars = '/' :: Text.join '/' (p.map fun s => s.text.toList) := by
  rw [← Text.flatMap_sep_cons (by simpa using hne), List.flatMap_map]
  rfl

end Url.Path

/-! ## References -/

namespace Uri

variable {names : List String}

/-- The reference that parts lead to is written as they are, with slashes between them. -/
theorem text_ofNames (hne : names ≠ []) (h : ∀ name ∈ names, IsPart name) :
    (ofNames names).text = "kestra:///" ++ Text.glue '/' (names.map written) := by
  have htexts : (ofNames names).path.map Segment.text = names.map written :=
    Path.map_text_append_root hne h
  have hpath : (ofNames names).path ≠ [] := by
    intro e
    rw [e] at htexts
    exact hne (List.map_eq_nil_iff.1 htexts.symm)
  have hchars : (ofNames names).path.chars =
      '/' :: Text.join '/' ((names.map written).map String.toList) := by
    rw [Path.chars_eq_join hpath, ← htexts, List.map_map]
    rfl
  have hwhole : (ofNames names).chars =
      scheme.toList ++ ':' :: '/' :: '/' :: (ofNames names).path.chars := by
    -- There is neither a query nor a fragment behind the path.
    show scheme.toList ++ ':' :: ('/' :: '/' :: (ofNames names).path.chars) ++ [] ++ [] = _
    rw [List.append_nil, List.append_nil]
  rw [text, hwhole, hchars, ← String.toList_inj]
  simp [scheme, Text.glue]

/-- A reference is the names and nothing else: it is written as they are, with one slash between two
of them, its segments are they, and it is reached from the root in as many steps as one likes. -/
structure IsVerbatim (u : Uri) (names : List String) : Prop where
  text_eq : u.text = "kestra:///" ++ Text.glue '/' names
  segments_eq : u.segments = names
  join_eq : ∀ front back, front ≠ [] → front ++ back = names → (ofNames front).join back = u

/-- Names lead to the reference that is written like them. -/
theorem isVerbatim_ofNames (hne : names ≠ []) (h : ∀ name ∈ names, IsName name) :
    (ofNames names).IsVerbatim names := by
  have hparts : ∀ name ∈ names, IsPart name := fun name hn => isPart_of_isName (h name hn)
  have hwritten : names.map written = names :=
    (List.map_congr_left fun name hn => written_of_isName (h name hn)).trans (List.map_id' names)
  exact {
    text_eq := by rw [text_ofNames hne hparts, hwritten]
    segments_eq := by rw [segments_ofNames hparts, hwritten]
    join_eq := by
      rintro front back hfront rfl
      exact join_ofNames hfront fun name hn => hparts name (List.mem_append_left back hn) }

end Uri

/-! ## The layout -/

/-- Identifiers are let in if they are names, and are kept as they are. -/
theorem Ident.exists_read_iff {kind : IdentKind} {id : String} :
    (∃ i : Ident kind, Ident.read kind id = .ok i ∧ i.text = id) ↔ IsName id := by
  constructor
  · rintro ⟨i, -, rfl⟩
    exact i.name.isName
  · intro h
    have hread : Name.read kind.label id = .ok ⟨id, h⟩ := Name.read_eq_ok_iff.2 rfl
    exact ⟨⟨⟨id, h⟩⟩, by rw [Ident.read, hread]; rfl, rfl⟩

/-- The reference of a cache entry is there if and only if both identifiers are names. -/
theorem Context.exists_cacheUri_iff {c : Context} {cacheId : String} {objectId : Option String} :
    (∃ u, c.cacheUri cacheId objectId = .ok u) ↔
      IsName cacheId ∧ ∀ id ∈ objectId, IsName id := by
  simp only [cacheUri_eq_ok_iff]
  constructor
  · rintro ⟨_, cache, object, rfl, rfl, -⟩
    refine ⟨cache.isName, fun id hid => ?_⟩
    obtain ⟨name, -, rfl⟩ := Option.map_eq_some_iff.1 hid
    exact name.isName
  · rintro ⟨hcache, hobject⟩
    cases objectId with
    | none => exact ⟨_, ⟨cacheId, hcache⟩, none, rfl, rfl, rfl⟩
    | some id => exact ⟨_, ⟨cacheId, hcache⟩, some ⟨id, hobject id rfl⟩, rfl, rfl, rfl⟩

/-- The references of the layout are the names that its rules give, and nothing else: the segments
of the namespace, the identifiers and the words in between, as they are and in this order.
Identifiers may be any names, and the reference of a cache entry is there if its two are. -/
theorem layout_verbatim (c : Context) (cacheId : String) (objectId : Option String) :
    c.executionUri.IsVerbatim
      (c.space.segments ++ [c.flow.text, "executions", c.execution.text]) ∧
    c.baseUri.IsVerbatim
      (c.space.segments ++ [c.flow.text, "executions", c.execution.text] ++
        match c.scope with
        | .execution => []
        | .task task run => ["tasks", task.text, run.text]
        | .trigger trigger => ["trigger", trigger.text]) ∧
    (∀ u, c.cacheUri cacheId objectId = .ok u → u.IsVerbatim
      (c.space.segments ++ [c.flow.text] ++
        (match c.scope with
          | .task task _ => [task.text]
          | _ => []) ++
        ["cache", cacheId] ++ objectId.toList ++ ["cache.zip"])) ∧
    c.space.filesUri.IsVerbatim (c.space.segments ++ ["_files"]) ∧
    ((∃ u, c.cacheUri cacheId objectId = .ok u) ↔ IsName cacheId ∧ ∀ id ∈ objectId, IsName id) ∧
    ∀ (kind : IdentKind) (id : String),
      (∃ i : Ident kind, Ident.read kind id = .ok i ∧ i.text = id) ↔ IsName id := by
  have hexecution : c.executionNames =
      c.space.segments ++ [c.flow.text, "executions", c.execution.text] := c.executionNames_eq
  refine ⟨?_, ?_, ?_, ?_, Context.exists_cacheUri_iff, fun _ _ => Ident.exists_read_iff⟩
  · rw [← hexecution]
    exact Uri.isVerbatim_ofNames (by simp [hexecution]) Context.isName_of_mem_executionNames
  · rw [← hexecution]
    exact Uri.isVerbatim_ofNames (by simp [Context.scopeNames, hexecution])
      Context.isName_of_mem_scopeNames
  · intro u hu
    obtain ⟨cache, object, rfl, rfl, rfl⟩ := Context.cacheUri_eq_ok_iff.1 hu
    exact Uri.isVerbatim_ofNames (by simp [Context.cacheNames]) Context.isName_of_mem_cacheNames
  · exact Uri.isVerbatim_ofNames (by simp) Namespace.isName_of_mem_filesNames

/-- Dots, hyphens and underscores are kept wherever they stand, three dots in a row as well. -/
theorem layout_verbatim_of_dots :
    let name := fun (id : String) (h : IsName id) => Name.mk id h
    let c : Context := {
      tenant := none
      space := ⟨"-a._b", by decide⟩
      flow := ⟨name "..." (by decide)⟩
      execution := ⟨name "-x" (by decide)⟩
      scope := .task ⟨name "..t" (by decide)⟩ ⟨name "_" (by decide)⟩ }
    c.baseUri.text = "kestra:///-a/_b/.../executions/-x/tasks/..t/_" ∧
      ∃ u, c.cacheUri "...." (some "-.") = .ok u ∧
        u.text = "kestra:///-a/_b/.../..t/cache/..../-./cache.zip" ∧
        u.segments = ["-a", "_b", "...", "..t", "cache", "....", "-.", "cache.zip"] := by
  intro name c
  obtain ⟨-, hbase, hcache, -, haccepted, -⟩ := layout_verbatim c "...." (some "-.")
  obtain ⟨u, hu⟩ := haccepted.2 (by decide)
  have hsegments : c.space.segments = ["-a", "_b"] := by decide +kernel
  rw [hsegments] at hbase hcache
  refine ⟨hbase.text_eq.trans ?_, u, hu, (hcache u hu).text_eq.trans ?_,
    (hcache u hu).segments_eq⟩
  · decide +kernel
  · decide +kernel

end Depot
