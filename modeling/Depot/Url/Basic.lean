import Depot.Url.Path

/-!
# URLs

A URL is a scheme, perhaps an authority, a path, and perhaps a query and a fragment, each of the
last three in its encoded form. `Url.text` writes it down. A path that starts with two slashes is
written after `/.` where no authority stands before it, so that it is not taken for one. Reading
gives a path this lead only where it has to (`Lead.of`). A path that is changed afterwards keeps the
lead that it has, so that `/.` may stand before a path that could do without.
-/

namespace Depot.Url

/-- Why a text is no URL. -/
inductive ParseError where
  | emptyHost
  | internationalDomain
  | port
  | ipv4
  | ipv6
  | domainCharacter
  | noScheme
  deriving DecidableEq, Repr

/-- The reason in words. -/
def ParseError.message : ParseError → String
  | .emptyHost => "empty host"
  | .internationalDomain => "invalid international domain name"
  | .port => "invalid port number"
  | .ipv4 => "invalid IPv4 address"
  | .ipv6 => "invalid IPv6 address"
  | .domainCharacter => "invalid domain character"
  | .noScheme => "relative URL without a base"

/-- Who keeps what the path leads to: user, password, host and port, each perhaps empty. -/
structure Authority where
  user : String
  password : String
  host : String
  port : Option Nat
  deriving DecidableEq

/-- Nobody in particular. -/
def Authority.nobody : Authority := ⟨"", "", "", none⟩

/-- An authority as it is written after `//`. -/
def Authority.text (a : Authority) : String :=
  let user := a.user ++ (if a.password = "" then "" else ":" ++ a.password)
  (if user = "" then "" else user ++ "@") ++ a.host ++
    match a.port with
    | some n => ":" ++ toString n
    | none => ""

/-! ## Hierarchies and what stands before them -/

/-- What follows the authority: a path from the root, the path of a local file as a whole, or a
text without a root that is not to be taken apart. -/
inductive Hierarchy where
  | rooted (path : Path)
  | localFile (path : Encoded Percent.inPath)
  | rootless (text : Encoded Percent.plain)
  deriving DecidableEq

namespace Hierarchy

/-- A hierarchy as it is written. -/
def chars : Hierarchy → List Char
  | rooted path => path.chars
  | localFile path => path.text.toList
  | rootless text => text.text.toList

/-- Nothing has to stand before the hierarchy. -/
def IsFree : Hierarchy → Prop
  | rooted path => path.Rooted
  | _ => True

instance : DecidablePred IsFree
  | rooted path => inferInstanceAs (Decidable path.Rooted)
  | localFile _ => isTrue trivial
  | rootless _ => isTrue trivial

end Hierarchy

/-- What stands between the scheme and the hierarchy. -/
inductive Lead where
  | nothing
  /-- `/.`, which keeps the two slashes after it from being taken for those of an authority. -/
  | dot
  | authority (a : Authority)
  deriving DecidableEq

namespace Lead

/-- A lead as it is written. -/
def chars : Lead → List Char
  | nothing => []
  | dot => ['/', '.']
  | authority a => '/' :: '/' :: a.text.toList

/-- The lead of a hierarchy that has been read: an authority if there is one, and else what the
hierarchy needs. -/
def of (a : Option Authority) (hierarchy : Hierarchy) : Lead :=
  match a with
  | some a => authority a
  | none => if hierarchy.IsFree then nothing else dot

theorem isFree_of_eq_nothing {a : Option Authority} {hierarchy : Hierarchy}
    (h : of a hierarchy = nothing) : hierarchy.IsFree := by
  unfold of at h
  split at h
  · cases h
  · split at h
    · assumption
    · cases h

theorem of_none_ne_authority (hierarchy : Hierarchy) (a : Authority) :
    of none hierarchy ≠ authority a := by
  by_cases h : hierarchy.IsFree <;> simp [of, h]

end Lead

end Url

/-- A URL, taken apart into what is written of it. -/
structure Url where
  scheme : String
  lead : Url.Lead
  hierarchy : Url.Hierarchy
  query : Option (Url.Encoded Url.Percent.inQuery)
  fragment : Option (Url.Encoded Url.Percent.inFragment)
  /-- Where nothing stands before a path, it does not start with two slashes. -/
  isFree : lead = .nothing → hierarchy.IsFree
  deriving DecidableEq

namespace Url

/-- The URL of parts that have been read. -/
def ofParts (scheme : String) (authority : Option Authority) (hierarchy : Hierarchy)
    (query : Option (Encoded Percent.inQuery)) (fragment : Option (Encoded Percent.inFragment)) :
    Url where
  scheme := scheme
  lead := .of authority hierarchy
  hierarchy := hierarchy
  query := query
  fragment := fragment
  isFree := Lead.isFree_of_eq_nothing

theorem ofParts_eq (url : Url) {authority : Option Authority}
    (h : .of authority url.hierarchy = url.lead) :
    ofParts url.scheme authority url.hierarchy url.query url.fragment = url := by
  obtain ⟨scheme, lead, hierarchy, query, fragment, isFree⟩ := url
  obtain rfl : .of authority hierarchy = lead := h
  rfl

/-- A part that is written after a mark if it is there. -/
def marked {keeps : Char → Bool} (mark : Char) (part : Option (Encoded keeps)) : List Char :=
  Text.marked mark (part.map fun e => e.text.toList)

/-- The characters of a written URL. -/
def chars (u : Url) : List Char :=
  u.scheme.toList ++ ':' :: (u.lead.chars ++ u.hierarchy.chars) ++
    marked '?' u.query ++ marked '#' u.fragment

/-- A URL as it is written. -/
def text (u : Url) : String :=
  String.ofList u.chars

end Url

end Depot
