import Depot.Client

/-!
# The cache

Runs of a flow share cache entries, each under one identifier or two. How long an entry counts is
up to who asks: an entry is expired when more time than that has passed since it was put, counted
from the whole millisecond. An expired entry is removed when it is asked for.
-/

namespace Depot.Client

/-- Whether an entry of an instant counts no longer after so many nanoseconds. When they are too
many for a span of time, or the end of that time is no instant any more, the entry counts for
ever. -/
def isExpired (now modified : Instant) (ttl : Nat) : Bool :=
  match (Span.ofNanos? ttl).bind (·.after? modified) with
  | some last => last.nanos < now.nanos
  | none => false

/-- The instant that an entry was put at, if there is one. -/
def cacheModified (c : Client) (uri : Uri) : Action (Option Instant) := do
  match ← (Backend.attributes c.area uri).attempt with
  | .ok a => return a.lastModified
  | .error e => if e.isAbsent then return none else throw e

/-- Whether an entry has expired, `ttl` nanoseconds after it was put. -/
def isCacheExpired (c : Client) (uri : Uri) (ttl : Nat) : Action Bool := do
  match ← c.cacheModified uri with
  | some modified => return isExpired (← c.now) modified ttl
  | none => return false

/-- The content of an entry, unless it is not there or older than it may be. -/
def readCache (c : Client) (cacheId : String) (objectId : Option String) (ttl : Option Nat) :
    Action (Option ByteArray) := do
  let uri ← Action.guarded (c.context.cacheUri cacheId objectId)
  let expired ← match ttl with
    | some ttl => c.isCacheExpired uri ttl
    | none => pure false
  if expired then
    -- The entry is gone for the caller even if it cannot be removed.
    let _ ← (Backend.remove c.area uri).attempt
    return none
  match ← (Backend.read c.area uri).attempt with
  | .ok content => return some content
  | .error e => if e.isAbsent then return none else throw e

/-- Hands over a local file as an entry. -/
def putCache (c : Client) (path : LocalPath) (cacheId : String) (objectId : Option String) :
    Action Uri :=
  consuming path do
    let uri ← Action.guarded (c.context.cacheUri cacheId objectId)
    let content ← readLocal path
    c.writeAt (.ofBytes content) uri

/-- Removes an entry; there is no answer if there was none. -/
def removeCache (c : Client) (cacheId : String) (objectId : Option String) :
    Action (Option Bool) := do
  let uri ← Action.guarded (c.context.cacheUri cacheId objectId)
  if ← Backend.contains c.area uri then return some (← Backend.remove c.area uri)
  else return none

end Depot.Client
