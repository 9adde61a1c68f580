import Depot.Access
import Depot.World

/-!
# Clients

A client works with files on behalf of a context. It lets references in, resolves names below its
base, asks its guard before it opens another namespace, and leaves everything else to the backend.
It keeps nothing itself. References and names are checked before the backend is called.
-/

namespace Depot

/-- Where a client reads the time: the clock that all share, or one that runs by itself. -/
inductive ClockSource where
  | shared
  | wall
  deriving DecidableEq, Repr

/-- Someone who works with files: for a context, past a guard, by a clock. -/
structure Client where
  context : Context
  guard : AccessGuard
  clock : ClockSource
  deriving DecidableEq

/-- Content that is handed over bit by bit, and may break off. -/
structure Source where
  bytes : ByteArray
  failure : Option Failure

/-- The whole content, or why it broke off. -/
def Source.readAll (s : Source) : Except Failure ByteArray :=
  match s.failure with
  | none => .ok s.bytes
  | some e => .error e

/-- Content that is there as a whole. -/
def Source.ofBytes (bytes : ByteArray) : Source := ⟨bytes, none⟩

namespace Client

/-- The area that the client acts in. -/
def area (c : Client) : Area :=
  c.context.area

/-- The time by the clock of the client. -/
def now (c : Client) : Action Instant :=
  Action.observe fun w =>
    match c.clock with
    | .shared => w.clock
    | .wall => w.wall

/-! ## Files by reference -/

/-- Whether there is an object. -/
def contains (c : Client) (given : Uri.Given) : Action Bool := do
  let uri ← Action.guarded (Uri.letIn given)
  Backend.contains c.area uri

/-- The content of a file. -/
def read (c : Client) (given : Uri.Given) : Action ByteArray := do
  let uri ← Action.guarded (Uri.letIn given)
  Backend.read c.area uri

/-- What is reported of an object. -/
def attributes (c : Client) (given : Uri.Given) : Action FileAttributes := do
  let uri ← Action.guarded (Uri.letIn given)
  Backend.attributes c.area uri

/-- Removes an object, and answers whether it was there. -/
def remove (c : Client) (given : Uri.Given) : Action Bool := do
  let uri ← Action.guarded (Uri.letIn given)
  Backend.remove c.area uri

/-- Removes all files of the run, of every scope, and answers where they were. -/
def removeExecution (c : Client) : Action (List Uri) :=
  Backend.removeUnder c.area c.context.executionUri

/-! ## Writing files -/

/-- Writes a file where a reference says; all content is read before anything is written. -/
def writeAt (c : Client) (source : Source) (uri : Uri) : Action Uri := do
  let content ← Action.ofExcept source.readAll
  Backend.write c.area uri content

/-- Writes a file where the caller says. -/
def putAt (c : Client) (source : Source) (given : Uri.Given) : Action Uri := do
  let uri ← Action.guarded (Uri.letIn given)
  c.writeAt source uri

/-- Writes a file under a name below the base of the client. -/
def put (c : Client) (source : Source) (name : String) : Action Uri := do
  let uri ← Action.guarded (c.context.baseUri.resolve name)
  c.writeAt source uri

/-! ## Handing over local files -/

/-- The content of a local file. -/
def readLocal (path : LocalPath) : Action ByteArray := do
  let content ← Action.observe (·.disk.read path)
  Action.ofExcept content

/-- An action that takes a local file away, whatever comes of it. -/
def consuming {α : Type} (path : LocalPath) (act : Action α) : Action α :=
  act.ensuring fun w => { w with disk := w.disk.unlink path }

/-- The name that a local file gives itself. -/
def localName (path : LocalPath) : Except BadReference String :=
  match path.fileName? with
  | some name => .ok name
  | none => .error (.localName path.shown)

/-- Hands over a local file under a name, or under its own. -/
def putLocal (c : Client) (path : LocalPath) (name : Option String) : Action Uri :=
  consuming path do
    let name ← Action.guarded (match name with
      | some name => .ok name
      | none => localName path)
    let uri ← Action.guarded (c.context.baseUri.resolve name)
    let content ← readLocal path
    c.writeAt (.ofBytes content) uri

end Client

end Depot
