import Depot.Failure
import Depot.Url.Parse

/-!
# References to stored objects

An object is referred to by a URI of the scheme `kestra` whose path has a root and which names no
authority: `kestra:///company/team/report.csv`. `Uri.parse` and `Uri.ofUrl` guard the way in, so
that a value of `Uri` never leads anywhere else; callers give a reference in any form, and it is let
in by the guard of that form (`Uri.letIn`). The path is kept as it was written, whether after `//`,
after nothing or after `/.`; the text and the URL of a reference (`Uri.toUrl`) tell these apart.

The module also has the operations on paths: `join` puts names below a reference, `startsWith` and
`relativeTo` compare references segment by segment.
-/

namespace Depot

/-- How the root of a path is written. -/
inductive Uri.Root where
  /-- The path follows the scheme. -/
  | bare
  /-- The path follows an authority that names nobody. -/
  | slashes
  /-- The path follows `/.`, which keeps its first two slashes from being taken for the above. -/
  | dotted
  deriving DecidableEq, Repr

/-- What is written before the path. -/
def Uri.Root.chars : Uri.Root → List Char
  | .bare => []
  | .slashes => ['/', '/']
  | .dotted => ['/', '.']

/-- A reference to a stored object. -/
structure Uri where
  root : Uri.Root
  path : Url.Path
  query : Option (Url.Encoded Url.Percent.inQuery)
  fragment : Option (Url.Encoded Url.Percent.inFragment)
  /-- A path after nothing does not start with two slashes. -/
  rooted : root = .bare → path.Rooted
  deriving DecidableEq

namespace Uri

/-- The only scheme of references to stored objects. -/
def scheme : String := "kestra"

/-! ## Writing -/

/-- The characters of a written reference. -/
def chars (u : Uri) : List Char :=
  scheme.toList ++ ':' :: (u.root.chars ++ u.path.chars) ++
    Url.marked '?' u.query ++ Url.marked '#' u.fragment

/-- The reference as it is written. -/
def text (u : Uri) : String :=
  String.ofList u.chars

/-- The path as it is written. -/
def pathText (u : Uri) : String :=
  String.ofList u.path.chars

/-- The reference as a reader of a log sees it. -/
def describe (u : Uri) : String :=
  "StorageUri(" ++ u.text ++ ")"

/-! ## URLs -/

/-- What stands before the path in a URL: slashes are an authority that names nobody. -/
def Root.lead : Root → Url.Lead
  | .bare => .nothing
  | .slashes => .authority .nobody
  | .dotted => .dot

theorem Root.eq_bare_of_lead {r : Root} (h : r.lead = .nothing) : r = .bare := by
  cases r with
  | bare => rfl
  | slashes => cases h
  | dotted => cases h

theorem Root.eq_slashes_of_lead {r : Root} {a : Url.Authority} (h : r.lead = .authority a) :
    r = .slashes := by
  cases r with
  | bare => cases h
  | slashes => rfl
  | dotted => cases h

theorem Root.chars_lead (r : Root) : r.lead.chars = r.chars := by
  cases r with
  | bare => rfl
  | slashes => rfl
  | dotted => rfl

/-- The URL that a reference is. -/
def toUrl (u : Uri) : Url where
  scheme := scheme
  lead := u.root.lead
  hierarchy := .rooted u.path
  query := u.query
  fragment := u.fragment
  isFree h := u.rooted (Root.eq_bare_of_lead h)

@[simp] theorem toUrl_lead (u : Uri) : u.toUrl.lead = u.root.lead := rfl

/-! ## Reading -/

/-- Lets a URL in as a reference. -/
def ofUrl (url : Url) : Except BadReference Uri :=
  if url.scheme ≠ scheme then .error (.foreignScheme url.text)
  else
    match url with
    | ⟨_, .nothing, .rooted path, query, fragment, isFree⟩ =>
      .ok ⟨.bare, path, query, fragment, fun _ => isFree rfl⟩
    | ⟨_, .dot, .rooted path, query, fragment, _⟩ => .ok ⟨.dotted, path, query, fragment, nofun⟩
    | ⟨_, .authority a, .rooted path, query, fragment, _⟩ =>
      if a.host = "" ∧ a.port = none ∧ a.user = "" ∧ a.password = "" then
        .ok ⟨.slashes, path, query, fragment, nofun⟩
      else .error (.authority url.text)
    | _ => .error (.rootless url.text)

/-- Reads a reference. The scheme has to be written in lower case at the very start. -/
def parse (input : String) : Except BadReference Uri :=
  match Text.cut ':' input.toList with
  | (_, none) => .error (.notAUri input none)
  | (name, some _) =>
    if name ≠ scheme.toList then .error (.foreignScheme input)
    else
      match Url.parse input with
      | .error e => .error (.notAUri input (some e.message))
      | .ok url => ofUrl url

/-- Reads a reference that may be missing. -/
def parse? (input : Option String) : Except BadReference Uri :=
  match input with
  | none => .error .noUri
  | some text => parse text

/-- A reference as a caller gives it: as a text that may be missing, as a URL, or as it is. -/
inductive Given where
  | text (input : Option String)
  | url (url : Url)
  | value (uri : Uri)

instance : Coe (Option String) Given := ⟨.text⟩

/-- Lets in what a caller gives. -/
def letIn (given : Given) : Except BadReference Uri :=
  match given with
  | .text input => parse? input
  | .url url => ofUrl url
  | .value uri => .ok uri

/-! ## Segments -/

/-- The segments of the path that are not empty, encoded. -/
def segments (u : Uri) : List String :=
  (u.path.map Url.Segment.text).filter (· ≠ "")

/-- The last segment, decoded. -/
def fileName? (u : Uri) : Option String :=
  u.segments.getLast?.map Url.Percent.decode

/-- Whether a reference is `base` or lies below it, by whole segments. -/
def startsWith (u base : Uri) : Bool :=
  base.segments.isPrefixOf u.segments

/-- The decoded segments below `base`, if the reference is there. -/
def relativeTo (u base : Uri) : Option (List String) :=
  if u.startsWith base then
    some ((u.segments.drop base.segments.length).map Url.Percent.decode)
  else none

/-! ## Building -/

/-- The reference with names below it, one after the other. -/
def join (u : Uri) (names : List String) : Uri where
  root := u.root
  path := u.path.append names
  query := u.query
  fragment := u.fragment
  rooted h := Url.Path.rooted_append (u.rooted h) names

/-- The root of all references. -/
def top : Uri := ⟨.slashes, [.empty], none, none, nofun⟩

/-- The reference that leads through the names from the root. -/
def ofNames (names : List String) : Uri :=
  top.join names

end Uri

end Depot
