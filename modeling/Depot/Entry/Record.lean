import Depot.Entry
import Depot.Value

/-!
# Entries as records

What is reported of objects travels as records: a word for a kind, numbers and texts for the rest.
A record may name more fields than are asked for, and a field that says no may be left out.
-/

namespace Depot

namespace FileKind

/-- The words for the kinds. -/
def words : List (String × FileKind) :=
  [("FILE", file), ("DIRECTORY", directory)]

/-- The word for a kind. -/
def word : FileKind → String
  | file => "FILE"
  | directory => "DIRECTORY"

/-- Reads a kind. -/
def read (v : Value) : Option FileKind :=
  v.choice? .json words

end FileKind

namespace OnConflict

/-- The words for the policies. -/
def words : List (String × OnConflict) :=
  [("OVERWRITE", overwrite), ("ERROR", error), ("SKIP", skip)]

/-- The word for a policy. -/
def word : OnConflict → String
  | overwrite => "OVERWRITE"
  | error => "ERROR"
  | skip => "SKIP"

/-- Reads a policy. -/
def read (v : Value) : Option OnConflict :=
  v.choice? .json words

end OnConflict

namespace FileAttributes

/-- Reads what is reported of an object. -/
def read (v : Value) : Option FileAttributes := do
  match ← v.record? .json false
      ["file_name", "kind", "size", "creation_time", "last_modified_time"] with
  | [some name, some kind, some size, some created, some modified] =>
    return ⟨← name.text?, ← FileKind.read kind, ← size.unsigned?, ← created.signed?,
      ← modified.signed?⟩
  | _ => none

/-- What is reported of an object, as a record. -/
def toValue (a : FileAttributes) : Value :=
  .table [("file_name", .text a.fileName), ("kind", .text a.kind.word), ("size", .int a.size),
    ("creation_time", .int a.created), ("last_modified_time", .int a.modified)]

end FileAttributes

namespace Uri

/-- Reads a reference. -/
def read (v : Value) : Option Uri := do
  (Uri.parse (← v.text?)).toOption

/-- A reference as a text. -/
def toValue (u : Uri) : Value :=
  .text u.text

end Uri

namespace NamespaceFile

/-- Reads the description of a file of a namespace. -/
def read (v : Value) : Option NamespaceFile := do
  match ← v.record? .json false ["path", "uri", "namespace", "directory"] with
  | [some path, some uri, some space, directory] =>
    return ⟨← path.text?, ← Uri.read uri, ← (Namespace.read (← space.text?)).toOption,
      ← Value.orElse false Value.bool? directory⟩
  | _ => none

/-- The description of a file of a namespace as a record; only directories say what they are. -/
def toValue (f : NamespaceFile) : Value :=
  .table ([("path", .text f.path), ("uri", f.uri.toValue), ("namespace", .text f.space.text)] ++
    if f.directory then [("directory", .bool true)] else [])

end NamespaceFile

end Depot
