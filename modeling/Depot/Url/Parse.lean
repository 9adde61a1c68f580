import Depot.Url.LocalFile

/-!
# Reading URLs

`Url.parse` trims the input, reads the scheme, and leaves the rest to the rules of the scheme.
-/

namespace Depot.Url

open Percent

/-- The input without white space and controls at its ends. -/
def trimmed (cs : List Char) : List Char :=
  let blank := fun (c : Char) => c.toNat ≤ 0x20
  ((cs.dropWhile blank).reverse.dropWhile blank).reverse

/-- A character of a scheme. -/
def isSchemeChar (c : Char) : Bool :=
  Text.isAsciiAlphanumeric c || c == '+' || c == '-' || c == '.'

/-- The scheme, in lower case, and what follows its colon. -/
def splitScheme (cs : List Char) : Option (String × List Char) :=
  match Text.cut ':' cs with
  | (name, some rest) =>
    let name := unbroken name
    if name.head?.any Text.isAsciiLetter && name.all isSchemeChar then
      some (String.ofList (name.map Text.asciiLower), rest)
    else none
  | (_, none) => none

/-- Reads what follows a scheme without rules of its own. -/
def readGeneral (scheme : String) (rest : List Char) : Except ParseError Url := do
  let (rest, fragment) := Text.cut '#' rest
  let (rest, query) := Text.cut '?' rest
  let (authority, hierarchy) ← match rest with
    | '/' :: '/' :: cs =>
      let area := cs.takeWhile (· != '/')
      let below := cs.drop area.length
      let more := !below.isEmpty || query.isSome || fragment.isSome
      let (authority, left) ← Authority.read .general area more
      let path := match left, below with
        | [], [] => []
        | [], _ :: below => Path.ofText below
        | left, below => Path.ofText (left ++ below)
      pure (some authority, Hierarchy.rooted path)
    | '/' :: cs => pure (none, Hierarchy.rooted (Path.ofText cs))
    | cs => pure (none, Hierarchy.rootless (Encoded.rootless cs))
  return .ofParts scheme authority hierarchy (query.map Encoded.query)
    (fragment.map Encoded.fragment)

/-- Reads a URL. -/
def parse (input : String) : Except ParseError Url :=
  match splitScheme (trimmed input.toList) with
  | none => .error .noScheme
  | some ("file", rest) => LocalFile.read rest
  | some (scheme, rest) =>
    match Web.port? scheme with
    | some port => Web.read scheme port (unbroken rest)
    | none => readGeneral scheme (unbroken rest)

end Depot.Url
