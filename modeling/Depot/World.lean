import Depot.Disk
import Depot.Store

/-!
# The world that clients act on

Clients share a clock, a backend and the local disk. The backend is the store behind a front that
may fail: a failing call ends before it reaches the store and is not counted. Questions to access
guards are kept in order. An action is a step of the world that may fail, and a failing action
keeps what it has done before.
-/

namespace Depot

/-- The kinds of calls that a backend serves. -/
inductive Call where
  | exists
  | get
  | put
  | delete
  | deleteUnder
  | attributes
  | list
  | makeDirectory
  deriving DecidableEq, Repr

/-- What is wrong with the front of the backend. -/
structure Faults where
  /-- The calls that fail. -/
  failing : Call → Option Failure
  /-- The reference that a successful write answers instead of the one that was written. -/
  putReturns : Option Uri
  /-- The reference of a file that is reported after all that a listing finds. -/
  listReturns : Option Uri

/-- Nothing is wrong. -/
def Faults.none : Faults := ⟨fun _ => .none, .none, .none⟩

/-- The faults with those of one call set anew. -/
def Faults.set (f : Faults) (c : Call) (failure : Option Failure) : Faults :=
  { f with failing := fun d => if d = c then failure else f.failing d }

/-- A question to an access guard: may `caller` open `target`? -/
structure AccessCheck where
  target : Area
  caller : Area
  deriving DecidableEq

/-- All that actions can see and change. -/
structure World where
  clock : Instant
  /-- What a clock shows that is not set by hand. -/
  wall : Instant
  store : Store
  /-- The number of calls that the store has served. -/
  served : Nat
  faults : Faults
  checks : List AccessCheck
  disk : Disk

/-- A world at an instant where nothing is stored and nothing is wrong. -/
def World.start (clock : Instant) : World where
  clock
  wall := clock
  store := .empty
  served := 0
  faults := .none
  checks := []
  disk := .empty

/-- A step of the world that answers or fails. -/
abbrev Action := ExceptT Failure (StateM World)

namespace Action

/-- An answer that depends on the world alone and changes nothing. -/
def observe {α : Type} (f : World → α) : Action α :=
  fun w => (.ok (f w), w)

/-- A change that cannot fail. -/
def change (f : World → World) : Action Unit :=
  fun w => (.ok (), f w)

/-- The answer of something that can fail and touches nothing. -/
def ofExcept {α : Type} (r : Except Failure α) : Action α :=
  fun w => (r, w)

/-- Goes on only with a reference that is let in. -/
def guarded {α : Type} (r : Except BadReference α) : Action α :=
  ofExcept (r.mapError .badReference)

/-- The same action, with `last` done after it whatever comes of it. -/
def ensuring {α : Type} (act : Action α) (last : World → World) : Action α :=
  fun w => let (r, w) := act w; (r, last w)

/-- The result of an action as an answer of its own: the action as a whole does not fail. -/
def attempt {α : Type} (act : Action α) : Action (Except Failure α) :=
  fun w => let (r, w) := act w; (.ok r, w)

end Action

/-! ## The store, counting what it serves -/

namespace Vault

/-- Serves a call that changes the store. -/
def serve {α : Type} (op : World → Except Failure (α × Store)) : Action α :=
  fun w =>
    let w := { w with served := w.served + 1 }
    match op w with
    | .ok (a, store) => (.ok a, { w with store })
    | .error e => (.error e, w)

/-- Serves a call that only looks. -/
def look {α : Type} (op : Store → Except Failure α) : Action α :=
  serve fun w => (op w.store).map fun a => (a, w.store)

/-- Whether there is an object. -/
def contains (area : Area) (uri : Uri) : Action Bool :=
  look fun s => .ok (s.contains area uri)

/-- The content of a file. -/
def read (area : Area) (uri : Uri) : Action ByteArray :=
  look fun s => s.read area uri

/-- What is reported of an object. -/
def attributes (area : Area) (uri : Uri) : Action FileAttributes :=
  look fun s => s.attributes area uri

/-- All that is strictly below a reference. -/
def list (area : Area) (base : Uri) : Action (List Entry) :=
  look fun s => .ok (s.list area base)

/-- Writes a file, stamped by the clock, and answers where it is. -/
def write (area : Area) (uri : Uri) (content : ByteArray) : Action Uri :=
  serve fun w => (w.store.write w.clock.millis area uri content).map fun s => (uri, s)

/-- Makes a directory, and answers whether it was not there before. -/
def makeDirectory (area : Area) (uri : Uri) : Action Bool :=
  serve fun w => w.store.makeDirectory w.clock.millis area uri

/-- Removes an object, and answers whether it was there. -/
def remove (area : Area) (uri : Uri) : Action Bool :=
  serve fun w => .ok (w.store.remove area uri)

/-- Removes all objects at a reference and below it, and answers where they were. -/
def removeUnder (area : Area) (base : Uri) : Action (List Uri) :=
  serve fun w => .ok (w.store.removeUnder area base)

end Vault

/-! ## The backend: the store behind a front that may fail -/

namespace Backend

/-- Lets a call through to the store unless it is to fail. -/
def front {α : Type} (c : Call) (act : Action α) : Action α :=
  fun w =>
    match w.faults.failing c with
    | some e => (.error e, w)
    | none => act w

def contains (area : Area) (uri : Uri) : Action Bool :=
  front .exists (Vault.contains area uri)

def read (area : Area) (uri : Uri) : Action ByteArray :=
  front .get (Vault.read area uri)

def attributes (area : Area) (uri : Uri) : Action FileAttributes :=
  front .attributes (Vault.attributes area uri)

def list (area : Area) (base : Uri) : Action (List Entry) :=
  front .list do
    let entries ← Vault.list area base
    match ← Action.observe (·.faults.listReturns) with
    | some uri => return entries ++ [⟨uri, ⟨"", .file, 0, 0, 0⟩⟩]
    | none => return entries

def write (area : Area) (uri : Uri) (content : ByteArray) : Action Uri :=
  front .put do
    let written ← Vault.write area uri content
    return (← Action.observe (·.faults.putReturns)).getD written

def makeDirectory (area : Area) (uri : Uri) : Action Bool :=
  front .makeDirectory (Vault.makeDirectory area uri)

def remove (area : Area) (uri : Uri) : Action Bool :=
  front .delete (Vault.remove area uri)

def removeUnder (area : Area) (base : Uri) : Action (List Uri) :=
  front .deleteUnder (Vault.removeUnder area base)

end Backend

end Depot
