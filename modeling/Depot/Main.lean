import Std.Time
import Depot.Demo
import Depot.Toml.Document
import Depot.Ulid

/-!
# The command line

Runs the demonstration. The argument is the path of a configuration; without one, the
demonstration has a configuration of its own.
-/

namespace Depot.CommandLine

/-- The configuration at a path, or what is wrong with it. -/
def readConfig (path : String) : IO (Except String Config) := do
  match ← (IO.FS.readFile path).toBaseIO with
  | .error e => return .error (toString e)
  | .ok text =>
    match (Toml.read text).bind (Config.read .toml) with
    | some config => return .ok config
    | none => return .error BadConfig.unreadable.message

/-- A name that is made up on the spot. -/
def freshName (now : Instant) : IO String := do
  let entropy ← IO.getRandomBytes 10
  return Ulid.text now.millis.toNat (entropy.toList.foldl (fun n b => 256 * n + b.toNat) 0)

/-- Runs the demonstration and answers what the program exits with. -/
def run (args : List String) : IO UInt32 := do
  let given ← match args with
    | path :: _ => readConfig path
    | [] => pure (.ok Demo.defaultConfig)
  match given with
  | .error reason =>
    IO.eprintln ("Error: " ++ reason)
    return 1
  | .ok config =>
    let seconds := (← Std.Time.Timestamp.now).toSecondsSinceUnixEpoch.val
    let now := (Instant.ofParts? seconds 0).getD .noon2024
    let fresh : Demo.Fresh := ⟨← freshName now, ← freshName now⟩
    let (lines, failure) := Demo.run now fresh config
    lines.forM IO.println
    match failure with
    | some e =>
      IO.eprintln ("Error: " ++ e.message)
      return 1
    | none => return 0

end Depot.CommandLine

def main (args : List String) : IO UInt32 :=
  Depot.CommandLine.run args
