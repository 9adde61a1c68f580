import Depot.Context

/-!
# Access between namespaces

A namespace is open to those who work in it. Who else may open it is up to a guard: nobody,
everybody, or the callers that rules name for it. Rules never reach across tenants, and rules for the
same namespace are put together into one (`AccessRules.ofList`).
-/

namespace Depot

/-- Which namespaces may call. -/
inductive CallerPattern where
  /-- `*` -/
  | any
  /-- A namespace with `.*` behind it: the namespace itself and all below it. -/
  | within (space : Namespace)
  /-- Just the namespace. -/
  | exactly (space : Namespace)
  deriving DecidableEq

namespace CallerPattern

/-- What stands before `.*` at the end of a text. -/
def stem? (cs : List Char) : Option (List Char) :=
  match cs.reverse with
  | '*' :: '.' :: rest => some rest.reverse
  | _ => none

/-- Reads a pattern. -/
def read (text : String) : Except BadReference CallerPattern :=
  if text = "*" then .ok .any
  else
    match stem? text.toList with
    | some stem => (Namespace.read (String.ofList stem)).map within
    | none => (Namespace.read text).map exactly

/-- Whether the pattern names a caller. -/
def admits (p : CallerPattern) (caller : Namespace) : Bool :=
  match p with
  | any => true
  | within space => caller.isWithin space
  | exactly space => caller == space

end CallerPattern

/-- Callers that may open the namespace `target`. -/
structure AccessRule where
  target : Namespace
  callers : List CallerPattern
  deriving DecidableEq

/-! ## Rules for many namespaces -/

/-- Rules, one for each namespace that there are rules for. -/
structure AccessRules where
  rules : List AccessRule
  distinct : (rules.map AccessRule.target).Nodup
  deriving DecidableEq

namespace AccessRules

/-- Whether some rule names the caller for the target. -/
def names (rules : List AccessRule) (target caller : Namespace) : Bool :=
  rules.any fun r => r.target == target && r.callers.any (·.admits caller)

/-- Rules with one more caller that may open `target`: it joins the rule that is there for the
namespace, or else starts one. -/
def insert (target : Namespace) (caller : CallerPattern) : List AccessRule → List AccessRule
  | [] => [⟨target, [caller]⟩]
  | r :: rules =>
    if r.target = target then { r with callers := r.callers ++ [caller] } :: rules
    else r :: insert target caller rules

theorem eq_or_mem_of_mem_targets_insert {target space : Namespace} {caller : CallerPattern}
    {rules : List AccessRule} (h : space ∈ (insert target caller rules).map AccessRule.target) :
    space = target ∨ space ∈ rules.map AccessRule.target := by
  induction rules with
  | nil => exact Or.inl (List.mem_singleton.1 h)
  | cons r rules ih =>
    unfold insert at h
    split at h
    · exact Or.inr h
    · rcases List.mem_cons.1 h with hr | h
      · exact Or.inr (hr ▸ List.mem_cons_self)
      · exact (ih h).imp_right (List.mem_cons_of_mem _)

theorem distinct_insert {target : Namespace} {caller : CallerPattern} {rules : List AccessRule}
    (h : (rules.map AccessRule.target).Nodup) :
    ((insert target caller rules).map AccessRule.target).Nodup := by
  induction rules with
  | nil => exact List.nodup_cons.2 ⟨List.not_mem_nil, List.nodup_nil⟩
  | cons r rules ih =>
    obtain ⟨hr, hrules⟩ := List.nodup_cons.1 h
    unfold insert
    split
    · exact h
    · next htarget =>
      refine List.nodup_cons.2 ⟨fun hmem => ?_, ih hrules⟩
      exact (eq_or_mem_of_mem_targets_insert hmem).elim htarget hr

/-- No rules. -/
def none : AccessRules := ⟨[], List.nodup_nil⟩

/-- Lets one more caller open `target`. -/
def allow (target : Namespace) (rules : AccessRules) (caller : CallerPattern) : AccessRules :=
  ⟨insert target caller rules.rules, distinct_insert rules.distinct⟩

/-- Lets the callers of a rule in, one after the other. -/
def merge (rules : AccessRules) (r : AccessRule) : AccessRules :=
  r.callers.foldl (allow r.target) rules

/-- The rules of a list, of which there may be many for a namespace. -/
def ofList (rules : List AccessRule) : AccessRules :=
  rules.foldl merge none

end AccessRules

/-! ## Guards -/

/-- Who may open a namespace besides those who work in it. -/
inductive AccessGuard where
  | ownOnly
  | everyone
  | ruled (rules : AccessRules)
  deriving DecidableEq

namespace AccessGuard

/-- Whether the guard lets the caller open the target. -/
def admits (g : AccessGuard) (target caller : Area) : Bool :=
  match g with
  | ownOnly => target == caller
  | everyone => true
  | ruled rules =>
    target.tenant == caller.tenant &&
      (target.space == caller.space || AccessRules.names rules.rules target.space caller.space)

/-- Fails where the guard does not let the caller in. -/
def check (g : AccessGuard) (target caller : Area) : Except Failure Unit :=
  if g.admits target caller then .ok ()
  else .error (.accessDenied target.text caller.text)

end AccessGuard

end Depot
