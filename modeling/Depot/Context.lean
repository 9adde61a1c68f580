import Depot.Name
import Depot.Namespace
import Depot.FileName

/-!
# Where a run keeps its files

A run of a flow, or of a task or trigger in it, has a place of its own below its namespace:

* `{namespace}/{flow}/executions/{execution}` for the run,
* `…/tasks/{task}/{task run}` and `…/trigger/{trigger}` below it,
* `{namespace}/{flow}[/{task}]/cache/{cache}[/{object}]/cache.zip` for what runs share,
* `{namespace}/_files` for the files of the namespace itself.

The segments of a namespace are segments of the path. Every other part is a name, so no part can
lead out of its place.
-/

namespace Depot

/-- The part of the store that a call may touch: a namespace, of a tenant if there are several. -/
structure Area where
  tenant : Option (Ident .tenant)
  space : Namespace
  deriving DecidableEq

/-- An area as messages name it. -/
def Area.text (a : Area) : String :=
  match a.tenant with
  | some t => t.text ++ "/" ++ a.space.text
  | none => a.space.text

/-- What in a run the files belong to. -/
inductive Scope where
  | execution
  | task (task : Ident .task) (run : Ident .taskRun)
  | trigger (trigger : Ident .trigger)
  deriving DecidableEq

/-- Who works with files: a run of a flow of a namespace, and a scope in it. -/
structure Context where
  tenant : Option (Ident .tenant)
  space : Namespace
  flow : Ident .flow
  execution : Ident .execution
  scope : Scope
  deriving DecidableEq

/-- Where the files of a namespace are. -/
def Namespace.filesUri (space : Namespace) : Uri :=
  .ofNames (space.segments ++ ["_files"])

namespace Context

/-- The area that the run may touch. -/
def area (c : Context) : Area :=
  ⟨c.tenant, c.space⟩

/-- Whether the context is that of a task. -/
def isTask (c : Context) : Bool :=
  match c.scope with
  | .task .. => true
  | _ => false

/-- The way to the flow. -/
def flowNames (c : Context) : List String :=
  c.space.segments ++ [c.flow.text]

/-- The way to all files of the run. -/
def executionNames (c : Context) : List String :=
  c.flowNames ++ ["executions", c.execution.text]

/-- The way to the files of the scope. -/
def scopeNames (c : Context) : List String :=
  c.executionNames ++ match c.scope with
    | .execution => []
    | .task task run => ["tasks", task.text, run.text]
    | .trigger trigger => ["trigger", trigger.text]

/-- The way to a cache entry. -/
def cacheNames (c : Context) (cache : Name) (object : Option Name) : List String :=
  c.flowNames ++
    (match c.scope with
      | .task task _ => [task.text]
      | _ => []) ++
    ["cache", cache.text] ++ (object.map Name.text).toList ++ ["cache.zip"]

/-- Where all files of the run are. -/
def executionUri (c : Context) : Uri :=
  .ofNames c.executionNames

/-- Where the files of the scope are. -/
def baseUri (c : Context) : Uri :=
  .ofNames c.scopeNames

/-- Where the cache entry of the two identifiers is. -/
def cacheUri (c : Context) (cacheId : String) (objectId : Option String) :
    Except BadReference Uri := do
  let cache ← Name.read "cache id" cacheId
  let object ← match objectId with
    | some id => (Name.read "object id" id).map some
    | none => pure none
  return .ofNames (c.cacheNames cache object)

end Context

end Depot
