import Depot.Client
import Depot.Config

/-!
# Putting a client together

A client needs a context and a backend. Left out, the guard keeps every namespace for its own and
the clock runs by itself.
-/

namespace Depot

/-- What has been said so far about a client. -/
structure Client.Draft where
  context : Option Context
  /-- Whether there is a backend. -/
  backend : Bool
  guard : Option AccessGuard
  clock : Option ClockSource

/-- Why no client can be put together. -/
inductive Client.DraftError where
  | noContext
  | noBackend
  | config (failure : Failure)
  deriving DecidableEq, Repr

namespace Client

/-- The reason in words. -/
def DraftError.message : DraftError → String
  | noContext => "Missing storage context. Call \x60context()\x60 before \x60build()\x60."
  | noBackend => "Missing storage backend. Call \x60backend()\x60 before \x60build()\x60."
  | config failure => "Invalid configuration: " ++ failure.message

namespace Draft

/-- Nothing has been said. -/
def empty : Draft := ⟨none, false, none, none⟩

/-- Takes the guard that a configuration describes. -/
def withConfig (d : Draft) (config : Config) : Except DraftError Draft :=
  match config.accessGuard with
  | .ok guard => .ok { d with guard := some guard }
  | .error failure => .error (.config failure)

/-- The client. -/
def build (d : Draft) : Except DraftError Client :=
  match d.context with
  | none => .error .noContext
  | some context =>
    if d.backend then
      .ok ⟨context, d.guard.getD .ownOnly, d.clock.getD .wall⟩
    else .error .noBackend

end Draft

end Client

end Depot
