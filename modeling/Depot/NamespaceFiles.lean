import Depot.Client
import Depot.Glob

/-!
# The files of a namespace

Besides the files of runs, a namespace has files of its own, by paths below a root. A client gets
at those of its namespace, and at those of others that its guard lets it open; after that no more
questions are asked.
-/

namespace Depot

/-- Access to the files of one namespace. -/
structure NamespaceFiles where
  area : Area
  deriving DecidableEq

/-- The files of the client's own namespace. -/
def Client.ownFiles (c : Client) : NamespaceFiles := ⟨c.area⟩

/-- The files of a namespace by its name. The guard is asked about every other than the own. -/
def Client.openFiles (c : Client) (space : String) : Action NamespaceFiles := do
  let target : Area := ⟨c.context.tenant, ← Action.guarded (Namespace.read space)⟩
  if target.space ≠ c.context.space then
    Action.change fun w => { w with checks := w.checks ++ [⟨target, c.area⟩] }
    Action.ofExcept (c.guard.check target c.area)
  return ⟨target⟩

namespace NamespaceFiles

/-- Where the files are. -/
def root (f : NamespaceFiles) : Uri :=
  f.area.space.filesUri

/-- A path without slashes at its ends. -/
def trimPath (path : String) : String :=
  String.ofList (Text.trim '/' path.toList)

/-- Where a path leads to. -/
def uriOf (f : NamespaceFiles) (path : String) : Except BadReference Uri :=
  f.root.resolve (trimPath path)

/-- A stored object as a file of the namespace. -/
def fileAt (f : NamespaceFiles) (uri : Uri) (directory : Bool) :
    Except BadReference NamespaceFile :=
  match uri.relativeTo f.root with
  | some names => .ok ⟨"/" ++ Text.glue '/' names, uri, f.area.space, directory⟩
  | none => .error (.outside uri.text f.root.text)

/-- The reference that a listing starts from: where the path leads to, or the root. -/
def startOf (f : NamespaceFiles) (path : Option String) : Except BadReference Uri :=
  match path with
  | some p => if trimPath p = "" then .ok f.root else f.uriOf (trimPath p)
  | none => .ok f.root

/-- All files, or those below a path, perhaps with the directories among them. -/
def all (f : NamespaceFiles) (path : Option String) (directories : Bool) :
    Action (List NamespaceFile) := do
  let start ← Action.guarded (f.startOf path)
  let entries ← Backend.list f.area start
  let chosen := entries.filter fun e => directories || !e.attributes.isDirectory
  Action.guarded (chosen.mapM fun e => f.fileAt e.uri e.attributes.isDirectory)

/-- All files whose paths are included by a pattern and excluded by none. -/
def find (f : NamespaceFiles) (includes excludes : List String) :
    Action (List NamespaceFile) := do
  let filter ← Action.guarded (PathFilter.ofTexts includes excludes)
  let files ← f.all none false
  return files.filter fun file => filter.accepts file.path

/-- Whether there is a file or a directory that has been made. -/
def contains (f : NamespaceFiles) (path : String) : Action Bool := do
  let uri ← Action.guarded (f.uriOf path)
  Backend.contains f.area uri

/-- The content of a file. -/
def read (f : NamespaceFiles) (path : String) : Action ByteArray := do
  let uri ← Action.guarded (f.uriOf path)
  Backend.read f.area uri

/-- Writes a file; the policy says what happens if there is something already. -/
def put (f : NamespaceFiles) (path : String) (source : Source) (policy : OnConflict) :
    Action NamespaceFile := do
  let uri ← Action.guarded (f.uriOf path)
  let taken ← if policy = .overwrite then pure false else Backend.contains f.area uri
  if taken && policy == .error then
    throw (.alreadyExists (.namespaceFile path f.area.space.text))
  if taken then Action.guarded (f.fileAt uri false)
  else
    let content ← Action.ofExcept source.readAll
    let written ← Backend.write f.area uri content
    Action.guarded (f.fileAt written false)

/-- Makes a directory, if it is not there, and answers where it is. -/
def makeDirectory (f : NamespaceFiles) (path : String) : Action Uri := do
  let uri ← Action.guarded (f.uriOf path)
  let _ ← Backend.makeDirectory f.area uri
  return uri

/-- Removes a file, or a directory with all below it, and answers whether it was there. -/
def remove (f : NamespaceFiles) (path : String) : Action Bool := do
  let uri ← Action.guarded (f.uriOf path)
  Backend.remove f.area uri

end NamespaceFiles

end Depot
