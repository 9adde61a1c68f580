import Depot.Client.Cache
import Depot.Config
import Depot.Entry.Record
import Depot.NamespaceFiles
import Depot.Text.Quoted
import Depot.Value.Json

/-!
# A demonstration

A task of a daily report writes a file and reads it back, shares a cache entry, looks into the
files of two other namespaces and cleans up. Each step says on a line of its own what came of it;
the first step that fails ends the demonstration.
-/

namespace Depot.Demo

/-- Steps that say something line by line, up to the first that fails. -/
abbrev Script := ExceptT Failure (StateT (List String) (StateM World))

/-- Says a line. -/
def say (line : String) : Script Unit :=
  modify (· ++ [line])

/-- Takes a step of the world. -/
def act {α : Type} (step : Action α) : Script α :=
  ExceptT.mk (StateT.lift step.run)

/-- The names that are made up for a demonstration. -/
structure Fresh where
  execution : String
  taskRun : String

/-- What holds when no configuration is given: the company shares a namespace with its teams. -/
def defaultConfig : Config :=
  ⟨.enforced, [⟨"company.shared", ["company.*"]⟩]⟩

/-- The context of the task. -/
def context (fresh : Fresh) : Except BadReference Context := do
  return {
    tenant := some (← Ident.read .tenant "acme")
    space := ← Namespace.read "company.team"
    flow := ← Ident.read .flow "daily-report"
    execution := ← Ident.read .execution fresh.execution
    scope := .task (← Ident.read .task "extract") (← Ident.read .taskRun fresh.taskRun) }

/-- The client of the task, with the guard of the configuration. -/
def client (fresh : Fresh) (config : Config) : Except Failure Client := do
  return ⟨← (context fresh).mapError .badReference, ← config.accessGuard, .wall⟩

/-- A content in quotes. -/
def shown (content : ByteArray) : String :=
  Text.Quoted.text ((String.fromUTF8? content).getD "")

/-- Writes a report and reads it back; a reference to anything else is refused. -/
def report (c : Client) : Script Unit := do
  let uri ← act (c.put (.ofBytes "id,total\n1,42\n".toUTF8) "report.csv")
  say ("stored: " ++ uri.text)
  let content ← act (c.read (some uri.text))
  say ("content: " ++ shown content)
  match ← act (c.read (some "file:///etc/passwd")).attempt with
  | .ok _ => pure ()
  | .error e => say ("rejected: " ++ e.message)

/-- Hands over an archive as a cache entry and reads it back. -/
def cache (c : Client) : Script Unit := do
  let path := LocalPath.ofString "cache.zip"
  act (Action.change fun w =>
    { w with disk := w.disk.put path (.file "compressed-deps".toUTF8) })
  let uri ← act (c.putCache path "deps" (some "v1"))
  let left ← act (Action.observe fun w => (w.disk.find? path).isSome)
  say ("cached: " ++ uri.text ++ " (local file removed: " ++ toString (!left) ++ ")")
  match ← act (c.readCache "deps" (some "v1") (some 3600000000000)) with
  | some content => say ("cache hit: " ++ shown content)
  | none => say "cache miss"

/-- Puts a template among the shared files, and tries to open the files of another department. -/
def neighbours (c : Client) : Script Unit := do
  let files ← act (c.openFiles "company.shared")
  let _ ← act (files.put "templates/header.txt" (.ofBytes "ACME".toUTF8) .overwrite)
  let found ← act (files.find ["**/*.txt"] [])
  say ("shared files: " ++ Value.Json.pretty 0 (.list (found.map NamespaceFile.toValue)))
  match ← act (c.openFiles "finance").attempt with
  | .ok _ => say "finance: allowed"
  | .error e => say ("finance: " ++ e.message)

/-- Removes what the run has left. -/
def cleanUp (c : Client) : Script Unit := do
  let removed ← act c.removeExecution
  let left ← act (Action.observe (·.store.size))
  say ("deleted " ++ toString removed.length ++ " execution file(s), " ++ toString left ++
    " object(s) left")

/-- The whole demonstration. -/
def script (fresh : Fresh) (config : Config) : Script Unit := do
  let c ← act (Action.ofExcept (client fresh config))
  report c
  cache c
  neighbours c
  cleanUp c

/-- What is said at an instant, and the failure that has ended it early. -/
def run (now : Instant) (fresh : Fresh) (config : Config) : List String × Option Failure :=
  let ((result, lines), _) := ((script fresh config).run.run []).run (.start now)
  (lines.flatMap (Text.pieces '\n'), match result with
    | .ok _ => none
    | .error e => some e)

end Depot.Demo
