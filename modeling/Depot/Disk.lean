import Depot.Failure
import Depot.Text.Pieces
import Depot.Text.Utf8

/-!
# Local files to be handed over

What a run has made on its machine is handed over by its path. The disk is what the paths lead to:
files, directories and links to other paths. Only reading and unlinking matter here. Reading
follows links, unlinking takes away the link itself, and a directory can neither be read nor
unlinked.
-/

namespace Depot

/-- A path of the machine, as its octets. -/
abbrev LocalPath := List UInt8

namespace LocalPath

/-- The path of a text. -/
def ofString (s : String) : LocalPath :=
  Text.Utf8.encode s.toList

/-- The components of a path: an empty part or a single dot leads nowhere else. -/
def components (p : LocalPath) : List (List UInt8) :=
  (Text.split '/'.toUInt8 p).filter fun part => part != [] && part != ['.'.toUInt8]

/-- Two dots, the directory above. -/
def dots : List UInt8 := ['.'.toUInt8, '.'.toUInt8]

/-- The last component as a text, unless it is the directory above. -/
def fileName? (p : LocalPath) : Option String :=
  match p.components.getLast? with
  | some last => if last = dots then none else (Text.Utf8.decode? last).map String.ofList
  | none => none

/-- The path as it is shown. -/
def shown (p : LocalPath) : String :=
  String.ofList (Text.Utf8.decodeLossy p)

/-- Whether a path leads nowhere but to the root, the working directory or one above it. -/
def isBase (p : LocalPath) : Bool :=
  !p.isEmpty && p.components.all (· == dots)

end LocalPath

/-- What a path leads to. -/
inductive LocalEntry where
  | file (content : ByteArray)
  | directory
  | link (target : LocalPath)

/-- What the paths of a machine lead to. -/
structure Disk where
  entries : List (LocalPath × LocalEntry)

namespace Disk

/-- A disk with nothing on it. -/
def empty : Disk := ⟨[]⟩

/-- What a path leads to, links not followed. -/
def find? (d : Disk) (path : LocalPath) : Option LocalEntry :=
  if path.isBase then some .directory else d.entries.lookup path

/-- The disk with an entry made. -/
def put (d : Disk) (path : LocalPath) (e : LocalEntry) : Disk :=
  ⟨(path, e) :: d.entries.filter (·.1 != path)⟩

/-- The content of a file, reached over up to `links` links. -/
def readVia (d : Disk) (links : Nat) (path : LocalPath) : Except Failure ByteArray :=
  if path.contains 0 then .error (.io .invalidInput "the path holds a zero octet")
  else
    match d.find? path with
    | none => .error (.io .notFound "no such file or directory")
    | some (.file content) => .ok content
    | some .directory => .error (.io .isDirectory "is a directory")
    | some (.link target) =>
      match links with
      | 0 => .error (.io .tooManyLinks "too many levels of links")
      | links + 1 => d.readVia links target

/-- The content of a file; links that lead in a circle are given up. -/
def read (d : Disk) (path : LocalPath) : Except Failure ByteArray :=
  d.readVia d.entries.length path

/-- The disk without a file or a link; a directory stays. -/
def unlink (d : Disk) (path : LocalPath) : Disk :=
  match d.find? path with
  | some .directory | none => d
  | some _ => ⟨d.entries.filter (·.1 != path)⟩

end Disk

end Depot
