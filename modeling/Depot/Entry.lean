import Depot.Context
import Depot.Instant

/-!
# What is reported of stored objects
-/

namespace Depot

/-- A file, or a mark that a directory is there. -/
inductive FileKind where
  | file
  | directory
  deriving DecidableEq, Repr

/-- What is reported of an object; times are milliseconds since 1970. -/
structure FileAttributes where
  fileName : String
  kind : FileKind
  size : Nat
  created : Int
  modified : Int
  deriving DecidableEq, Repr

namespace FileAttributes

/-- The instant of the last change, if the milliseconds name one. -/
def lastModified (a : FileAttributes) : Option Instant :=
  Instant.ofMillis? a.modified

/-- Whether the object is a directory. -/
def isDirectory (a : FileAttributes) : Bool :=
  a.kind == .directory

end FileAttributes

/-- An object in a listing. -/
structure Entry where
  uri : Uri
  attributes : FileAttributes
  deriving DecidableEq

/-- A file or directory of a namespace; `path` starts with a slash, at the root of its files. -/
structure NamespaceFile where
  path : String
  uri : Uri
  space : Namespace
  directory : Bool
  deriving DecidableEq

/-- What happens when a file is put where one is already. -/
inductive OnConflict where
  | overwrite
  | error
  | skip
  deriving DecidableEq, Repr

end Depot
