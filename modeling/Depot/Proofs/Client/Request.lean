import Depot.Client.Cache
import Depot.NamespaceFiles

/-!
# Requests

What a caller can ask of a client, and of the files of a namespace that a client has opened, as
data: statements about every operation, and about every sequence of them, are statements about
requests. `Client.Request.perform` and `NamespaceFiles.Request.perform` say which operation answers
a request. A session is a client at work: files of namespaces stay open once they are, the clocks
move as they like, and local files are made to be handed over.
-/

namespace Depot

/-- What the operations answer. -/
inductive Answer where
  | flag (b : Bool)
  | content (bytes : ByteArray)
  | attributes (a : FileAttributes)
  | uri (u : Uri)
  | uris (us : List Uri)
  | entry (content : Option ByteArray)
  | removal (removed : Option Bool)
  | file (f : NamespaceFile)
  | files (fs : List NamespaceFile)
  | opened (f : NamespaceFiles)

namespace NamespaceFiles

/-- What can be asked of the files of a namespace. -/
inductive Request where
  | all (path : Option String) (directories : Bool)
  | find (includes excludes : List String)
  | contains (path : String)
  | read (path : String)
  | put (path : String) (source : Source) (policy : OnConflict)
  | makeDirectory (path : String)
  | remove (path : String)

/-- The operation that answers a request. -/
def Request.perform (f : NamespaceFiles) : Request → Action Answer
  | .all path directories => .files <$> f.all path directories
  | .find includes excludes => .files <$> f.find includes excludes
  | .contains path => .flag <$> f.contains path
  | .read path => .content <$> f.read path
  | .put path source policy => .file <$> f.put path source policy
  | .makeDirectory path => .uri <$> f.makeDirectory path
  | .remove path => .flag <$> f.remove path

end NamespaceFiles

namespace Client

/-- What can be asked of a client. -/
inductive Request where
  | contains (given : Uri.Given)
  | read (given : Uri.Given)
  | attributes (given : Uri.Given)
  | remove (given : Uri.Given)
  | removeExecution
  | putAt (source : Source) (given : Uri.Given)
  | put (source : Source) (name : String)
  | putLocal (path : LocalPath) (name : Option String)
  | readCache (cacheId : String) (objectId : Option String) (ttl : Option Nat)
  | putCache (path : LocalPath) (cacheId : String) (objectId : Option String)
  | removeCache (cacheId : String) (objectId : Option String)
  | openFiles (space : String)

/-- The operation that answers a request. -/
def Request.perform (c : Client) : Request → Action Answer
  | .contains given => .flag <$> c.contains given
  | .read given => .content <$> c.read given
  | .attributes given => .attributes <$> c.attributes given
  | .remove given => .flag <$> c.remove given
  | .removeExecution => .uris <$> c.removeExecution
  | .putAt source given => .uri <$> c.putAt source given
  | .put source name => .uri <$> c.put source name
  | .putLocal path name => .uri <$> c.putLocal path name
  | .readCache cacheId objectId ttl => .entry <$> c.readCache cacheId objectId ttl
  | .putCache path cacheId objectId => .uri <$> c.putCache path cacheId objectId
  | .removeCache cacheId objectId => .removal <$> c.removeCache cacheId objectId
  | .openFiles space => .opened <$> c.openFiles space

end Client

/-! ## Sessions -/

/-- The world, and the files that the client has opened so far. -/
structure Session where
  world : World
  opened : List NamespaceFiles

namespace Session

/-- A session starts with the files of the client's own namespace. -/
def start (c : Client) (w : World) : Session :=
  ⟨w, [c.ownFiles]⟩

/-- What happens in a session. -/
inductive Event where
  | ask (request : Client.Request)
  /-- Something is asked of the files that were the `i`th to be opened. -/
  | askFiles (i : Nat) (request : NamespaceFiles.Request)
  | setClock (time : Instant)
  | setWall (time : Instant)
  | place (path : LocalPath) (entry : LocalEntry)

/-- The files that are open after an answer. -/
def openedAfter (opened : List NamespaceFiles) : Except Failure Answer → List NamespaceFiles
  | .ok (.opened f) => opened ++ [f]
  | _ => opened

/-- What an event is answered with, if it asks something of anybody, and the session after it. -/
def step (c : Client) (s : Session) : Event → Option (Except Failure Answer) × Session
  | .ask request =>
    let (answer, world) := request.perform c s.world
    (some answer, ⟨world, openedAfter s.opened answer⟩)
  | .askFiles i request =>
    match s.opened[i]? with
    | some f =>
      let (answer, world) := request.perform f s.world
      (some answer, ⟨world, s.opened⟩)
    | none => (none, s)
  | .setClock time => (none, { s with world := { s.world with clock := time } })
  | .setWall time => (none, { s with world := { s.world with wall := time } })
  | .place path entry =>
    (none, { s with world := { s.world with disk := s.world.disk.put path entry } })

/-- The answers to events one after the other, and the session after them. -/
def run (c : Client) (s : Session) : List Event → List (Option (Except Failure Answer)) × Session
  | [] => ([], s)
  | event :: events =>
    let (answer, s) := s.step c event
    let (answers, s) := run c s events
    (answer :: answers, s)

end Session

/-! ## A run for examples -/

/-- A run of the flow `daily` of the namespace `open`. -/
def Context.daily : Context :=
  ⟨none, ⟨"open", by decide⟩, ⟨⟨"daily", by decide⟩⟩, ⟨⟨"exec-1", by decide⟩⟩, .execution⟩

/-- The scope of a task by its name. -/
def Scope.ofTask (task : Name) : Scope :=
  .task ⟨task⟩ ⟨⟨"run-1", by decide⟩⟩

/-- Who works for the run, in its own namespace only. -/
def Client.daily : Client :=
  ⟨.daily, .ownOnly, .shared⟩

end Depot
