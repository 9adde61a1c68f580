import Depot.Text.Quoted

/-!
# Failures

Every operation on stored objects fails for one of a few causes. `Failure.message` words a cause
for its reader, `Failure.kind` says what a caller can do about it: nothing (`permanent`), expect
nothing there (`absent`), or try again later (`infrastructure`).
-/

namespace Depot

/-! ## References that are refused before anything is touched -/

/-- Why a reference to an object is refused. Texts are as the caller gave them. -/
inductive BadReference where
  /-- No URI was given. -/
  | noUri
  /-- The text has no scheme, or is no URL for the stated reason. -/
  | notAUri (given : String) (reason : Option String)
  /-- The scheme is another one. -/
  | foreignScheme (given : String)
  /-- The path has no root. -/
  | rootless (given : String)
  /-- A host, a port, a user or a password is named. -/
  | authority (given : String)
  /-- An identifier is empty or made of dots. -/
  | noIdentifier (label given : String)
  /-- An identifier holds a character that none may hold. -/
  | identifierCharacter (label : String) (char : Char) (given : String)
  /-- The namespace is empty. -/
  | noNamespace
  /-- The namespace has an empty or ill-formed part. -/
  | namespaceForm (given : String)
  /-- The file name is empty. -/
  | noName
  /-- A part of the file name is empty, made of dots, or holds what no name may hold. -/
  | nameForm (given : String)
  /-- The object is not below the root of the files it is said to be among. -/
  | outside (uri root : String)
  /-- A local path has no last component that is a text. -/
  | localName (path : String)
  /-- The automata of a pattern would take more octets than the limit. -/
  | patternSize (given : String) (limit : Nat)
  /-- A reason stated elsewhere. -/
  | stated (text : String)
  deriving DecidableEq, Repr

/-- The reason in words. -/
def BadReference.message : BadReference → String
  | noUri => "invalid internal storage uri, got null"
  | notAUri given none => "invalid internal storage uri, got uri '" ++ given ++ "'"
  | notAUri given (some reason) =>
    "invalid internal storage uri, got uri '" ++ given ++ "': " ++ reason
  | foreignScheme given => "invalid internal storage scheme, got uri '" ++ given ++ "'"
  | rootless given => "internal storage uri must be hierarchical, got uri '" ++ given ++ "'"
  | authority given => "internal storage uri must not have an authority, got uri '" ++ given ++ "'"
  | noIdentifier label given =>
    label ++ " must be a non-empty path segment, got '" ++ given ++ "'"
  | identifierCharacter label char given =>
    label ++ " contains forbidden character " ++ Text.Quoted.character char ++ ", got '" ++ given ++
      "'"
  | noNamespace => "namespace must not be empty"
  | namespaceForm given => "invalid namespace '" ++ given ++ "'"
  | noName => "file name must not be empty"
  | nameForm given =>
    "invalid file name '" ++ given ++ "': segments must not be empty, '.' or '..'"
  | outside uri root => "'" ++ uri ++ "' is outside of '" ++ root ++ "'"
  | localName path => "local file '" ++ path ++ "' has no usable file name"
  | patternSize given limit =>
    "invalid glob pattern '" ++ given ++ "': Compiled regex exceeds size limit of " ++
      toString limit ++ " bytes."
  | stated text => text

/-! ## What else stands in the way -/

/-- What is already where something was to be put. -/
inductive Occupied where
  /-- A file is where a directory was to be. -/
  | file (uri : String)
  /-- The namespace has a file of this path. -/
  | namespaceFile (path space : String)
  | stated (text : String)
  deriving DecidableEq, Repr

/-- The obstacle in words. -/
def Occupied.message : Occupied → String
  | file uri => "'" ++ uri ++ "' exists and is not a directory"
  | namespaceFile path space =>
    "namespace file '" ++ path ++ "' already exists in '" ++ space ++ "'"
  | stated text => text

/-- Why a backend does not do what it is asked. -/
inductive BackendFault where
  /-- A directory has no content to read. -/
  | readDirectory (uri : String)
  /-- A directory is not written over. -/
  | writeDirectory (uri : String)
  | stated (text : String)
  deriving DecidableEq, Repr

/-- The refusal in words. -/
def BackendFault.message : BackendFault → String
  | readDirectory uri => "'" ++ uri ++ "' is a directory"
  | writeDirectory uri => "cannot write '" ++ uri ++ "': a directory exists at this location"
  | stated text => text

/-- Why a configuration is refused. -/
inductive BadConfig where
  /-- Rules are given although every access is allowed. -/
  | idleRules
  /-- A rule names a namespace or a pattern that is none. -/
  | rule (reason : BadReference)
  /-- The text is no configuration. -/
  | unreadable
  | stated (text : String)
  deriving DecidableEq, Repr

/-- What introduces the reason for a refused reference. -/
def badReferenceText (reason : BadReference) : String :=
  "Invalid internal storage reference: " ++ reason.message

/-- The refusal in words. -/
def BadConfig.message : BadConfig → String
  | idleRules => "namespace access rules have no effect in unrestricted mode"
  | rule reason => badReferenceText reason
  | unreadable => "the text is not a configuration"
  | stated text => text

/-- The kinds of trouble that reading a file or talking to a server meets. -/
inductive IoKind where
  | notFound
  | permissionDenied
  | alreadyExists
  | unexpectedEnd
  | isDirectory
  | invalidInput
  | tooManyLinks
  | other
  deriving DecidableEq, Repr

/-! ## Failures -/

/-- Why an operation failed. -/
inductive Failure where
  | badReference (reason : BadReference)
  /-- The namespace `caller` may not open the namespace `target`. -/
  | accessDenied (target caller : String)
  /-- There is no such object. -/
  | notFound (what : String)
  | alreadyExists (what : Occupied)
  | io (kind : IoKind) (text : String)
  | backend (fault : BackendFault)
  | config (reason : BadConfig)
  deriving DecidableEq, Repr

/-- What a caller can expect of trying again. -/
inductive Failure.Kind where
  | permanent
  | absent
  | infrastructure
  deriving DecidableEq, Repr

namespace Failure

/-- The failure in words. -/
def message : Failure → String
  | badReference reason => badReferenceText reason
  | accessDenied target caller =>
    "Namespace '" ++ target ++ "' is not allowed to be accessed from namespace '" ++ caller ++ "'"
  | notFound what => "Storage object not found: " ++ what
  | alreadyExists what => "Storage object already exists: " ++ what.message
  | io _ text => "IO error: " ++ text
  | backend fault => "Backend error: " ++ fault.message
  | config reason => "Configuration error: " ++ reason.message

/-- What trying again would come to. -/
def kind : Failure → Kind
  | badReference _ | accessDenied .. | alreadyExists _ | config _ => .permanent
  | notFound _ | io .notFound _ => .absent
  | io .. | backend _ => .infrastructure

/-- Whether the failure says that nothing is there. -/
def isAbsent (f : Failure) : Bool :=
  f.kind == .absent

end Failure

end Depot
