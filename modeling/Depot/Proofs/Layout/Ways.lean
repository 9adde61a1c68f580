import Depot.NamespaceFiles
import Depot.Proofs.Uri.Below

/-!
# Ways from the root

Every reference of the layout is reached from the root by a way: a list of names, some of them
chosen by callers and some of them words of the layout. All of them are parts of file names, so that
a reference tells its way. The lemmas here say which way leads where: to the entry of a cache
(`cacheUri_eq_ok_iff`), to a file that a run is given a name for (`resolve_baseUri_eq_ok_iff`), to a
file of a namespace (`uriOf_eq_ok_iff`), and to all files of a run (`executionUri`).
-/

namespace Depot

/-! ## Names are parts -/

theorem isNameChar_of_isNamespaceChar {c : Char} (h : isNamespaceChar c = true) :
    isNameChar c = true := by
  unfold isNamespaceChar at h
  simp [isNameChar, h]

theorem toNat_lt_of_isNameChar {c : Char} (h : isNameChar c = true) : c.toNat < 128 := by
  simp only [isNameChar, Text.isAsciiAlphanumeric, Text.isAsciiLetter, Text.isAsciiDigit,
    Bool.or_eq_true, Bool.and_eq_true, decide_eq_true_eq, beq_iff_eq] at h
  have below : ∀ d : Char, c ≤ d → d.toNat < 128 → c.toNat < 128 :=
    fun _ hd hlt => Nat.lt_of_le_of_lt hd hlt
  rcases h with ((((h | h) | h) | rfl) | rfl) | rfl
  · exact below 'z' h.2 (by decide)
  · exact below 'Z' h.2 (by decide)
  · exact below '9' h.2 (by decide)
  all_goals decide

/-- No character of a name is a backslash or a control character. -/
theorem plain_of_isNameChar {c : Char} (h : isNameChar c = true) :
    c ≠ '\\' ∧ isControl c = false :=
  Text.of_all_ascii (p := fun c => isNameChar c = true → c ≠ '\\' ∧ isControl c = false)
    (by decide) (toNat_lt_of_isNameChar h) h

theorem isPart_of_isName {name : String} (h : IsName name) : IsPart name := by
  obtain ⟨hdots, hchars⟩ := h
  simp only [not_or] at hdots
  exact isPart_iff.2 ⟨hdots.1, hdots.2.1, hdots.2.2, fun c hc => plain_of_isNameChar (hchars c hc)⟩

theorem Name.text_inj {m n : Name} : m.text = n.text ↔ m = n := by
  cases m
  cases n
  simp

theorem Ident.text_inj {kind : IdentKind} {i j : Ident kind} : i.text = j.text ↔ i = j := by
  constructor
  · intro h
    cases i with | mk i => cases j with | mk j =>
    cases i; cases j
    simpa [Ident.text] using h
  · intro h
    rw [h]

/-- The dots of a namespace stand between its segments, never in one. -/
theorem Namespace.isName_of_mem_segments {n : Namespace} {part : String} (h : part ∈ n.segments) :
    IsName part := by
  obtain ⟨cs, hcs, rfl⟩ := List.mem_map.1 h
  obtain ⟨hne, hchars⟩ := n.isNamespace cs hcs
  -- Without dots a segment cannot be one dot or two.
  have hdot : '.' ∉ cs := fun hm => absurd (hchars _ hm) (by decide)
  have hword : ∀ word : String, word.toList = [] ∨ '.' ∈ word.toList → String.ofList cs ≠ word := by
    rintro word hw rfl
    rw [String.toList_ofList] at hw
    exact hw.elim hne hdot
  refine ⟨?_, ?_⟩
  · rintro (h | h | h)
    · exact hword "" (by decide) h
    · exact hword "." (by decide) h
    · exact hword ".." (by decide) h
  · intro c hc
    rw [String.toList_ofList] at hc
    exact isNameChar_of_isNamespaceChar (hchars c hc)

theorem Namespace.isPart_of_mem_segments {n : Namespace} {part : String} (h : part ∈ n.segments) :
    IsPart part :=
  isPart_of_isName (isName_of_mem_segments h)

theorem Namespace.isName_of_mem_filesNames {n : Namespace} :
    ∀ part ∈ n.segments ++ ["_files"], IsName part := by
  intro part h
  rcases List.mem_append.1 h with h | h
  · exact isName_of_mem_segments h
  · rw [List.mem_singleton.1 h]
    decide

theorem Namespace.isPart_of_mem_filesNames {n : Namespace} :
    ∀ part ∈ n.segments ++ ["_files"], IsPart part :=
  fun part h => isPart_of_isName (isName_of_mem_filesNames part h)

/-! ## The ways of a run -/

namespace Context

variable {c : Context} {u : Uri}

/-- The task whose entries a cache has, if they are not those of the flow. -/
def task? (c : Context) : Option (Ident .task) :=
  match c.scope with
  | .task task _ => some task
  | _ => none

/-- The names that lead to the files of the scope from those of the run. -/
def scopeWay (c : Context) : List String :=
  match c.scope with
  | .execution => []
  | .task task run => ["tasks", task.text, run.text]
  | .trigger trigger => ["trigger", trigger.text]

theorem executionNames_eq (c : Context) :
    c.executionNames = c.space.segments ++ [c.flow.text, "executions", c.execution.text] := by
  simp only [executionNames, flowNames, List.append_assoc, List.singleton_append]

theorem scopeNames_eq (c : Context) : c.scopeNames = c.executionNames ++ c.scopeWay := by
  unfold scopeNames scopeWay
  cases c.scope <;> rfl

theorem isName_of_mem_flowNames : ∀ part ∈ c.flowNames, IsName part := by
  intro part h
  rcases List.mem_append.1 h with h | h
  · exact Namespace.isName_of_mem_segments h
  · rw [List.mem_singleton.1 h]
    exact c.flow.name.isName

theorem isName_of_mem_executionNames : ∀ part ∈ c.executionNames, IsName part := by
  intro part h
  rcases List.mem_append.1 h with h | h
  · exact isName_of_mem_flowNames part h
  · simp only [List.mem_cons, List.not_mem_nil, or_false] at h
    rcases h with rfl | rfl
    · decide
    · exact c.execution.name.isName

theorem isPart_of_mem_executionNames : ∀ part ∈ c.executionNames, IsPart part :=
  fun part h => isPart_of_isName (isName_of_mem_executionNames part h)

theorem isName_of_mem_scopeNames : ∀ part ∈ c.scopeNames, IsName part := by
  intro part h
  rw [scopeNames_eq] at h
  rcases List.mem_append.1 h with h | h
  · exact isName_of_mem_executionNames part h
  · unfold scopeWay at h
    cases hs : c.scope with
    | execution => simp [hs] at h
    | task task run =>
      simp only [hs, List.mem_cons, List.not_mem_nil, or_false] at h
      rcases h with rfl | rfl | rfl
      · decide
      · exact task.name.isName
      · exact run.name.isName
    | trigger trigger =>
      simp only [hs, List.mem_cons, List.not_mem_nil, or_false] at h
      rcases h with rfl | rfl
      · decide
      · exact trigger.name.isName

theorem isPart_of_mem_scopeNames : ∀ part ∈ c.scopeNames, IsPart part :=
  fun part h => isPart_of_isName (isName_of_mem_scopeNames part h)

/-- The way to an entry: the task's name comes in between for the entries of a task. -/
theorem cacheNames_eq (c : Context) (cache : Name) (object : Option Name) :
    c.cacheNames cache object = c.flowNames ++ ((c.task?.map Ident.text).toList ++
      "cache" :: cache.text :: ((object.map Name.text).toList ++ ["cache.zip"])) := by
  unfold cacheNames task?
  cases c.scope <;> simp

theorem isName_of_mem_cacheNames {cache : Name} {object : Option Name} :
    ∀ part ∈ c.cacheNames cache object, IsName part := by
  intro part h
  rw [cacheNames_eq] at h
  simp only [List.mem_append, List.mem_cons, Option.mem_toList, Option.map_eq_some_iff,
    List.not_mem_nil, or_false] at h
  rcases h with h | ⟨task, -, rfl⟩ | rfl | rfl | ⟨object, -, rfl⟩ | rfl
  · exact isName_of_mem_flowNames part h
  · exact task.name.isName
  · decide
  · exact cache.isName
  · exact object.isName
  · decide

theorem isPart_of_mem_cacheNames {cache : Name} {object : Option Name} :
    ∀ part ∈ c.cacheNames cache object, IsPart part :=
  fun part h => isPart_of_isName (isName_of_mem_cacheNames part h)

/-! ## Where the ways lead -/

/-- The identifiers of an entry are let in if they are names. -/
theorem cacheUri_eq_ok_iff {cacheId : String} {objectId : Option String} :
    c.cacheUri cacheId objectId = .ok u ↔
      ∃ cache object, cache.text = cacheId ∧ object.map Name.text = objectId ∧
        u = .ofNames (c.cacheNames cache object) := by
  constructor
  · -- Both identifiers have been read as names, the second one if there is one.
    intro h
    unfold cacheUri at h
    cases hc : Name.read "cache id" cacheId with
    | error e => rw [hc] at h; cases h
    | ok cache =>
      rw [hc] at h
      have hcache := Name.read_eq_ok_iff.1 hc
      cases objectId with
      | none =>
        simp only [bind, Except.bind, pure, Except.pure, Except.ok.injEq] at h
        exact ⟨cache, none, hcache, rfl, h.symm⟩
      | some id =>
        dsimp only at h
        cases ho : Name.read "object id" id with
        | error e => rw [ho] at h; cases h
        | ok object =>
          simp only [ho, bind, Except.bind, Except.map, pure, Except.pure, Except.ok.injEq] at h
          exact ⟨cache, some object, hcache, congrArg some (Name.read_eq_ok_iff.1 ho), h.symm⟩
  · rintro ⟨cache, object, rfl, rfl, rfl⟩
    have hc : Name.read "cache id" cache.text = .ok cache := Name.read_eq_ok_iff.2 rfl
    cases object with
    | none =>
      unfold cacheUri
      rw [hc]
      rfl
    | some object =>
      have ho : Name.read "object id" object.text = .ok object := Name.read_eq_ok_iff.2 rfl
      simp only [cacheUri, Option.map_some]
      rw [hc, ho]
      rfl

/-- A run can write wherever a file name leads to from its base. -/
theorem resolve_baseUri_eq_ok_iff {name : String} :
    c.baseUri.resolve name = .ok u ↔
      (∀ part ∈ Text.pieces '/' name, IsPart part) ∧
        u = .ofNames (c.scopeNames ++ Text.pieces '/' name) := by
  have hne : c.scopeNames ≠ [] := by simp [scopeNames, executionNames]
  rw [Uri.resolve_eq_ok_iff, baseUri, Uri.join_ofNames hne isPart_of_mem_scopeNames]

end Context

/-- The files of a namespace are wherever a path leads to from their root. -/
theorem NamespaceFiles.uriOf_eq_ok_iff {f : NamespaceFiles} {u : Uri} {path : String} :
    f.uriOf path = .ok u ↔
      (∀ part ∈ Text.pieces '/' (trimPath path), IsPart part) ∧
        u = .ofNames (f.area.space.segments ++ "_files" :: Text.pieces '/' (trimPath path)) := by
  unfold uriOf root Namespace.filesUri
  rw [Uri.resolve_eq_ok_iff, Uri.join_ofNames (by simp) Namespace.isPart_of_mem_filesNames,
    List.append_assoc, List.singleton_append]

end Depot
