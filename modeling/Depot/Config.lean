import Depot.Access
import Depot.Value

/-!
# Configurations

A configuration says whether access between namespaces is restricted, and by which rules. It is
read as it is written; only `accessGuard` checks the names and patterns in it.
-/

namespace Depot

/-- Whether rules are needed to open a namespace from another one. -/
inductive AccessMode where
  | enforced
  | unrestricted
  deriving DecidableEq, Repr

/-- A rule as it is written: who may open a namespace. -/
structure RuleConfig where
  space : String
  allowed : List String
  deriving DecidableEq, Repr

/-- A configuration as it is written. -/
structure Config where
  mode : AccessMode
  rules : List RuleConfig
  deriving DecidableEq, Repr

namespace Config

/-- What holds when nothing is said: every namespace is for its own. -/
def default : Config := ⟨.enforced, []⟩

/-! ## Reading and writing -/

def readMode (form : DataFormat) : Value → Option AccessMode :=
  Value.choice? form [("enforced", .enforced), ("unrestricted", .unrestricted)]

def readRule (form : DataFormat) (v : Value) : Option RuleConfig := do
  match ← v.record? form true ["namespace", "allowed"] with
  | [some space, some allowed] =>
    return ⟨← space.text?, ← (← allowed.list?).mapM Value.text?⟩
  | _ => none

def readAccess (form : DataFormat) (v : Value) : Option Config := do
  match ← v.record? form true ["mode", "rules"] with
  | [mode, rules] =>
    return ⟨← Value.orElse .enforced (readMode form) mode,
      ← Value.orElse [] (fun v => do (← v.list?).mapM (readRule form)) rules⟩
  | _ => none

/-- Reads a configuration. -/
def read (form : DataFormat) (v : Value) : Option Config := do
  match ← v.record? form true ["namespace_access"] with
  | [access] => Value.orElse default (readAccess form) access
  | _ => none

/-- A configuration as data. -/
def toValue (c : Config) : Value :=
  .table [("namespace_access", .table [
    ("mode", .text (match c.mode with
      | .enforced => "enforced"
      | .unrestricted => "unrestricted")),
    ("rules", .list (c.rules.map fun r => .table [
      ("namespace", .text r.space),
      ("allowed", .list (r.allowed.map .text))]))])]

/-! ## The guard -/

/-- A rule with its names and patterns checked, the namespace first. -/
def checkRule (r : RuleConfig) : Except BadReference AccessRule := do
  let target ← Namespace.read r.space
  return ⟨target, ← r.allowed.mapM CallerPattern.read⟩

/-- The guard that a configuration describes; rules for the same namespace are merged. -/
def accessGuard (c : Config) : Except Failure AccessGuard :=
  match c.mode, c.rules with
  | .unrestricted, [] => .ok .everyone
  | .unrestricted, _ :: _ => .error (.config .idleRules)
  | .enforced, [] => .ok .ownOnly
  | .enforced, rules =>
    ((rules.mapM checkRule).map fun checked => .ruled (.ofList checked)).mapError fun e =>
      .config (.rule e)

end Config

end Depot
