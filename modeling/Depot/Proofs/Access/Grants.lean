import Mathlib.Data.Set.List
import Depot.Config
import Depot.Proofs.Access.Callers
import Depot.Proofs.Except

/-!
# What a configuration grants

A configuration is turned into a guard unless it has rules that have no effect, or one that is not
about a namespace and patterns of callers (`Config.Sound`). The rules of the guard are then the
rules as they are written (`AccessRule.written`), merged into one for each namespace. Merging
changes no decision (`AccessRules.names_ofList`), so that whom the guard lets in can be read off the
configuration (`Config.Grants`). Rules only ever add to each other: what counts is which entries
there are for which namespace (`Config.SaysSame`).
-/

namespace Depot

/-- A rule as it is written. -/
def AccessRule.written (r : AccessRule) : RuleConfig :=
  ⟨r.target.text, r.callers.map CallerPattern.text⟩

namespace AccessRules

/-! ## Rules that are merged -/

variable {rules : AccessRules} {target space caller : Namespace} {p : CallerPattern}

theorem names_cons (r : AccessRule) (rest : List AccessRule) :
    names (r :: rest) space caller =
      ((r.target == space && r.callers.any (·.admits caller)) || names rest space caller) :=
  rfl

/-- One more caller is let into the target, and nothing else changes. -/
theorem names_allow :
    names (allow target rules p).rules space caller =
      (names rules.rules space caller || (target == space && p.admits caller)) := by
  show names (insert target p rules.rules) space caller = _
  induction rules.rules with
  | nil => simp [insert, names]
  | cons r rest ih =>
    unfold insert
    split
    · next htarget =>
      subst htarget
      simp only [names_cons, List.any_append, List.any_cons, List.any_nil, Bool.or_false]
      cases r.target == space <;> simp [Bool.or_right_comm]
    · rw [names_cons, names_cons, ih, Bool.or_assoc]

theorem names_merge (r : AccessRule) :
    names (merge rules r).rules space caller =
      (names rules.rules space caller ||
        (r.target == space && r.callers.any (·.admits caller))) := by
  unfold merge
  induction r.callers generalizing rules with
  | nil => simp
  | cons p callers ih =>
    rw [List.foldl_cons, ih, names_allow, List.any_cons, Bool.and_or_distrib_left, Bool.or_assoc]

/-- Merging rules changes no decision. -/
theorem names_ofList (checked : List AccessRule) :
    names (ofList checked).rules space caller = names checked space caller := by
  have hmerge : ∀ start : AccessRules, names (checked.foldl merge start).rules space caller =
      (names start.rules space caller || names checked space caller) := by
    intro start
    induction checked generalizing start with
    | nil => simp [names]
    | cons r rest ih => rw [List.foldl_cons, ih, names_merge, names_cons, Bool.or_assoc]
  exact hmerge none

end AccessRules

namespace Config

variable {c d : Config} {g : AccessGuard} {target caller : Area}

/-! ## Rules as they are written -/

/-- Checking accepts exactly what rules are written as. -/
theorem checkRule_eq_ok_iff {r : RuleConfig} {a : AccessRule} :
    checkRule r = .ok a ↔ a.written = r := by
  have hcallers : ∀ callers, r.allowed.mapM CallerPattern.read = .ok callers ↔
      callers.map CallerPattern.text = r.allowed :=
    fun _ => mapM_eq_ok_iff_map fun _ _ => CallerPattern.read_eq_ok_iff
  have hwritten : a.written = r ↔
      Namespace.read r.space = .ok a.target ∧
        r.allowed.mapM CallerPattern.read = .ok a.callers := by
    rw [Namespace.read_eq_ok_iff, hcallers]
    cases r
    simp [AccessRule.written]
  rw [hwritten]
  unfold checkRule
  -- The namespace is read first, then the patterns.
  cases Namespace.read r.space with
  | error e => simp [bind, Except.bind]
  | ok n =>
    cases r.allowed.mapM CallerPattern.read with
    | error e => simp [bind, Except.bind]
    | ok callers =>
      cases a
      simp [bind, Except.bind, pure, Except.pure]

/-- What is written as a rule is about a namespace and patterns of callers. -/
theorem exists_written_eq_iff {r : RuleConfig} :
    (∃ a : AccessRule, a.written = r) ↔
      IsNamespace r.space ∧ ∀ entry ∈ r.allowed, IsCallerPattern entry := by
  have hcallers : (∃ callers : List CallerPattern, callers.map CallerPattern.text = r.allowed) ↔
      ∀ entry ∈ r.allowed, IsCallerPattern entry := by
    simp only [← CallerPattern.exists_text_eq_iff]
    exact Set.ext_iff.1 (Set.range_list_map CallerPattern.text) r.allowed
  rw [← hcallers]
  constructor
  · rintro ⟨a, rfl⟩
    exact ⟨a.target.isNamespace, a.callers, rfl⟩
  · rintro ⟨hspace, callers, hentries⟩
    refine ⟨⟨⟨r.space, hspace⟩, callers⟩, ?_⟩
    rw [AccessRule.written, hentries]

/-- A configuration has no rules that have no effect, and none that is not about a namespace and
patterns of callers. -/
structure Sound (c : Config) : Prop where
  effective : c.mode = .unrestricted → c.rules = []
  written : c.mode = .enforced → ∀ r ∈ c.rules,
    IsNamespace r.space ∧ ∀ entry ∈ r.allowed, IsCallerPattern entry

theorem exists_map_written_eq_iff {rules : List RuleConfig} :
    (∃ checked : List AccessRule, checked.map AccessRule.written = rules) ↔
      ∀ r ∈ rules, IsNamespace r.space ∧ ∀ entry ∈ r.allowed, IsCallerPattern entry := by
  simp only [← exists_written_eq_iff]
  exact Set.ext_iff.1 (Set.range_list_map AccessRule.written) rules

/-- The guard of a configuration has the rules as they are written, merged. -/
theorem accessGuard_eq_ok_iff :
    c.accessGuard = .ok g ↔
      (c.mode = .unrestricted ∧ c.rules = [] ∧ g = .everyone) ∨
      (c.mode = .enforced ∧ c.rules = [] ∧ g = .ownOnly) ∨
      (c.mode = .enforced ∧ c.rules ≠ [] ∧
        ∃ checked : List AccessRule, checked.map AccessRule.written = c.rules ∧
          g = .ruled (.ofList checked)) := by
  have hrules : ∀ checked, c.rules.mapM checkRule = .ok checked ↔
      checked.map AccessRule.written = c.rules :=
    fun _ => mapM_eq_ok_iff_map fun _ _ => checkRule_eq_ok_iff
  obtain ⟨mode, rules⟩ := c
  simp only [← hrules]
  cases mode with
  | unrestricted => cases rules <;> simp [accessGuard, eq_comm]
  | enforced =>
    cases rules with
    | nil => simp [accessGuard, eq_comm]
    | cons r rules =>
      simp only [accessGuard, mapError_eq_ok_iff]
      cases List.mapM checkRule (r :: rules) <;> simp [Except.map, eq_comm]

/-- A guard is made of every configuration that is sound. -/
theorem exists_accessGuard_iff (c : Config) : (∃ g, c.accessGuard = .ok g) ↔ c.Sound := by
  simp only [accessGuard_eq_ok_iff]
  constructor
  · rintro ⟨g, ⟨hmode, hnil, -⟩ | ⟨hmode, hnil, -⟩ | ⟨hmode, -, checked, hchecked, -⟩⟩
    · exact ⟨fun _ => hnil, by simp [hmode]⟩
    · exact ⟨by simp [hmode], by simp [hnil]⟩
    · exact ⟨by simp [hmode], fun _ => exists_map_written_eq_iff.1 ⟨checked, hchecked⟩⟩
  · intro h
    cases hmode : c.mode with
    | unrestricted => exact ⟨.everyone, Or.inl ⟨rfl, h.effective hmode, rfl⟩⟩
    | enforced =>
      by_cases hnil : c.rules = []
      · exact ⟨.ownOnly, Or.inr (Or.inl ⟨rfl, hnil, rfl⟩)⟩
      · obtain ⟨checked, hchecked⟩ := exists_map_written_eq_iff.2 (h.written hmode)
        exact ⟨_, Or.inr (Or.inr ⟨rfl, hnil, checked, hchecked, rfl⟩)⟩

/-- What is wrong with a configuration is always said to be wrong with the configuration. -/
theorem config_of_accessGuard {e : Failure} (h : c.accessGuard = .error e) :
    ∃ reason, e = .config reason := by
  unfold accessGuard at h
  split at h
  · cases h
  · cases h
    exact ⟨_, rfl⟩
  · cases h
  · cases hrules : c.rules.mapM checkRule with
    | ok checked =>
      rw [hrules] at h
      cases h
    | error reason =>
      rw [hrules] at h
      cases h
      exact ⟨_, rfl⟩

/-! ## What is granted -/

/-- A caller may open a namespace by what is written. -/
def Grants (c : Config) (target caller : Area) : Prop :=
  c.mode = .unrestricted ∨
    target.tenant = caller.tenant ∧
      (target.space = caller.space ∨
        ∃ r ∈ c.rules, r.space = target.space.text ∧
          ∃ entry ∈ r.allowed, NamesCaller entry caller.space)

theorem names_iff {checked : List AccessRule} {target caller : Namespace} :
    AccessRules.names checked target caller = true ↔
      ∃ r ∈ checked.map AccessRule.written, r.space = target.text ∧
        ∃ entry ∈ r.allowed, NamesCaller entry caller := by
  simp only [AccessRules.names, List.any_eq_true, Bool.and_eq_true, beq_iff_eq, List.mem_map,
    CallerPattern.admits_iff_namesCaller, exists_exists_and_eq_and, AccessRule.written,
    Namespace.text_inj]

theorem admits_iff_grants (h : c.accessGuard = .ok g) :
    g.admits target caller = true ↔ c.Grants target caller := by
  unfold Grants
  rcases accessGuard_eq_ok_iff.1 h with ⟨hmode, -, rfl⟩ | ⟨hmode, hnil, rfl⟩ |
    ⟨hmode, -, checked, hchecked, rfl⟩
  · simp [AccessGuard.admits, hmode]
  · -- Nobody but those who work in the namespace is let in.
    cases target
    cases caller
    simp [AccessGuard.admits, hmode, hnil]
  · simp [AccessGuard.admits, hmode, AccessRules.names_ofList, names_iff, hchecked]

theorem check_of_accessGuard (h : c.accessGuard = .ok g) :
    (c.Grants target caller → g.check target caller = .ok ()) ∧
      (¬c.Grants target caller →
        g.check target caller = .error (.accessDenied target.text caller.text)) := by
  unfold AccessGuard.check
  rw [← admits_iff_grants h]
  constructor
  · intro hadmits
    rw [if_pos hadmits]
  · intro hdenied
    rw [if_neg hdenied]

/-! ## Configurations that say the same -/

/-- Two configurations have rules for the same namespaces, with the same entries for each. In what
order, in how many rules and how often the entries are written makes no difference. -/
structure SaysSame (c d : Config) : Prop where
  mode : c.mode = d.mode
  spaces : ∀ space, (∃ r ∈ c.rules, r.space = space) ↔ ∃ r ∈ d.rules, r.space = space
  entries : ∀ space entry, (∃ r ∈ c.rules, r.space = space ∧ entry ∈ r.allowed) ↔
    ∃ r ∈ d.rules, r.space = space ∧ entry ∈ r.allowed

namespace SaysSame

theorem symm (h : c.SaysSame d) : d.SaysSame c where
  mode := h.mode.symm
  spaces space := (h.spaces space).symm
  entries space entry := (h.entries space entry).symm

theorem sound (h : c.SaysSame d) (hc : c.Sound) : d.Sound where
  effective hmode := by
    have hnil : c.rules = [] := hc.effective (h.mode.trans hmode)
    apply List.eq_nil_iff_forall_not_mem.2
    intro r hr
    obtain ⟨r', hr', -⟩ := (h.spaces r.space).2 ⟨r, hr, rfl⟩
    rw [hnil] at hr'
    exact List.not_mem_nil hr'
  written hmode r hr := by
    have hwritten := hc.written (h.mode.trans hmode)
    constructor
    · obtain ⟨r', hr', hspace⟩ := (h.spaces r.space).2 ⟨r, hr, rfl⟩
      exact hspace ▸ (hwritten r' hr').1
    · intro entry hentry
      obtain ⟨r', hr', -, hallowed⟩ := (h.entries r.space entry).2 ⟨r, hr, rfl, hentry⟩
      exact (hwritten r' hr').2 entry hallowed

theorem grants (h : c.SaysSame d) (hc : c.Grants target caller) : d.Grants target caller := by
  rcases hc with hmode | ⟨htenant, hspace | ⟨r, hr, hspace, entry, hentry, hnames⟩⟩
  · exact Or.inl (h.mode.symm.trans hmode)
  · exact Or.inr ⟨htenant, Or.inl hspace⟩
  · obtain ⟨r', hr', hspace', hentry'⟩ := (h.entries _ entry).1 ⟨r, hr, hspace, hentry⟩
    exact Or.inr ⟨htenant, Or.inr ⟨r', hr', hspace', entry, hentry', hnames⟩⟩

end SaysSame

/-- A configuration makes a guard if and only if it is sound, and fails as a configuration if not.
The guard lets in whom the configuration grants access, and names both sides to everybody else.
Configurations that say the same make guards that decide the same. -/
theorem accessGuard_grants (c : Config) :
    ((∃ g, c.accessGuard = .ok g) ↔ c.Sound) ∧
    (∀ e, c.accessGuard = .error e → ∃ reason, e = .config reason) ∧
    (∀ g, c.accessGuard = .ok g → ∀ target caller : Area,
      (c.Grants target caller → g.check target caller = .ok ()) ∧
      (¬c.Grants target caller →
        g.check target caller = .error (.accessDenied target.text caller.text))) ∧
    ∀ d, c.SaysSame d →
      ((∃ g, c.accessGuard = .ok g) ↔ ∃ h, d.accessGuard = .ok h) ∧
      ∀ g h, c.accessGuard = .ok g → d.accessGuard = .ok h →
        ∀ target caller, g.check target caller = h.check target caller := by
  have hsound : ∀ c : Config, (∃ g, c.accessGuard = .ok g) ↔ c.Sound := exists_accessGuard_iff
  refine ⟨hsound c, ?_, fun g hg target caller => check_of_accessGuard hg, ?_⟩
  · intro e he
    exact config_of_accessGuard he
  · intro d hsame
    constructor
    · rw [hsound, hsound]
      exact ⟨hsame.sound, hsame.symm.sound⟩
    · intro g h hg hh target caller
      have hgrants : c.Grants target caller ↔ d.Grants target caller :=
        ⟨hsame.grants, hsame.symm.grants⟩
      by_cases hc : c.Grants target caller
      · rw [(check_of_accessGuard hg).1 hc, (check_of_accessGuard hh).1 (hgrants.1 hc)]
      · rw [(check_of_accessGuard hg).2 hc, (check_of_accessGuard hh).2 (hc ∘ hgrants.2)]

/-- Rules for `company.shared` let in who works below `company.team`, also when they are split, put
in another order and written twice. They keep out `company.teammate`, whose name only begins with
the same letters. -/
theorem accessGuard_grants_of_shared :
    let c : Config := ⟨.enforced, [⟨"company.shared", ["company.team.*", "ops"]⟩]⟩
    let d : Config := ⟨.enforced, [⟨"company.shared", ["ops", "ops"]⟩,
      ⟨"company.shared", ["company.team.*"]⟩]⟩
    let shared : Area := ⟨none, ⟨"company.shared", by decide⟩⟩
    let below : Area := ⟨none, ⟨"company.team.etl", by decide⟩⟩
    let beside : Area := ⟨none, ⟨"company.teammate", by decide⟩⟩
    ∃ g h, c.accessGuard = .ok g ∧ d.accessGuard = .ok h ∧
      g.check shared below = .ok () ∧ h.check shared below = .ok () ∧
      g.check shared beside = .error (.accessDenied "company.shared" "company.teammate") ∧
      h.check shared beside = .error (.accessDenied "company.shared" "company.teammate") := by
  intro c d shared below beside
  let team : Namespace := ⟨"company.team", by decide⟩
  let ops : Namespace := ⟨"ops", by decide⟩
  have hg : c.accessGuard =
      .ok (.ruled (.ofList [⟨shared.space, [.within team, .exactly ops]⟩])) :=
    accessGuard_eq_ok_iff.2 (Or.inr (Or.inr ⟨rfl, List.cons_ne_nil _ _, _, rfl, rfl⟩))
  have hsame : c.SaysSame d := by
    refine ⟨rfl, by simp [c, d], fun space entry => ?_⟩
    simp only [c, d, List.mem_cons, List.not_mem_nil, exists_eq_or_imp, or_false, or_self,
      exists_eq_left]
    tauto
  obtain ⟨-, -, hcheck, hdecide⟩ := accessGuard_grants c
  obtain ⟨h, hh⟩ := (hdecide d hsame).1.1 ⟨_, hg⟩
  have heq := (hdecide d hsame).2 _ h hg hh
  have hbelow : c.Grants shared below := (admits_iff_grants hg).1 (by decide)
  have hbeside : ¬c.Grants shared beside := by
    rw [← admits_iff_grants hg]
    decide
  refine ⟨_, h, hg, hh, (hcheck _ hg shared below).1 hbelow, ?_,
    (hcheck _ hg shared beside).2 hbeside, ?_⟩
  · rw [← heq]
    exact (hcheck _ hg shared below).1 hbelow
  · rw [← heq]
    exact (hcheck _ hg shared beside).2 hbeside

end Config

end Depot
