import Depot.Url.Web

/-!
# Addresses of local files

After `file:` a backslash counts as a slash. A name between two slashes that follow is the machine;
it does not count if it is `localhost`, or if the path starts with a drive, a letter with `:` or
`|` behind it. A drive is written with a colon and is never left upwards. Where tabs or line ends
part a drive from more text, a slash takes their place, and the text is a name whatever it says.
-/

namespace Depot.Url.LocalFile

open Percent

/-- The names from the root on, and whether one of them has been taken for a drive there. -/
structure Way where
  names : List (List Char)
  onDrive : Bool
  deriving DecidableEq, Repr

/-- The root. -/
def Way.root : Way := ⟨[], false⟩

/-- A drive and nothing else. -/
def isDriveName (cs : List Char) : Bool :=
  isDrive cs && cs.length == 2

/-- A drive with a colon, and the text that tabs or line ends part it from. -/
def splitDrive? (cs : List Char) : Option (List Char × List Char) :=
  match cs.dropWhile isBreak with
  | a :: cs =>
    match cs.dropWhile isBreak with
    | ':' :: b :: rest =>
      if Text.isAsciiLetter a && isBreak b && rest.any (!isBreak ·) then
        some ([a, ':'], unbroken rest)
      else none
    | _ => none
  | [] => none

/-- The names without the last one, unless it is a drive. -/
def upwards (names : List (List Char)) : List (List Char) :=
  match names.getLast? with
  | some name => if isDrive name then names else names.dropLast
  | none => names

/-- The way after a piece of the path that other pieces follow. -/
def Way.enter (w : Way) (piece : List Char) : Way :=
  let name := unbroken piece
  match w.names, splitDrive? piece with
  | [], some (drive, rest) => { w with names := [drive, rest] }
  | names, _ =>
    if names.isEmpty && isDriveName name then ⟨[name.take 1 ++ [':']], true⟩
    else if isHere name then w
    else if isAbove name then { w with names := upwards names }
    else { w with names := names ++ [name] }

/-- The way after the last piece; dots leave it open towards what is below. -/
def Way.close (w : Way) (piece : List Char) : Way :=
  let last := w.enter piece
  let name := unbroken piece
  if isHere name || isAbove name then { last with names := last.names ++ [[]] } else last

/-- The way that pieces lead. -/
def Way.follow (w : Way) : List (List Char) → Way
  | [] => w
  | [last] => w.close last
  | piece :: pieces => (w.enter piece).follow pieces

/-- The way that a text leads after its first slash. -/
def Way.ofText (cs : List Char) : Way :=
  Way.root.follow (Text.split '/' cs)

/-- The way as it is written, without empty names at its start. -/
def Way.path (w : Way) : Encoded inPath :=
  match w.names.dropWhile List.isEmpty with
  | [] => Encoded.path ['/']
  | names => Encoded.path (names.flatMap ('/' :: ·))

/-- What follows a slash, if a text starts with one. -/
def afterSlash? (cs : List Char) : Option (List Char) :=
  match cs.dropWhile isBreak with
  | '/' :: rest => some rest
  | _ => none

/-- The machine and the way, read from what follows two slashes. -/
def readPlace (cs : List Char) : Except ParseError (String × Way) :=
  let area := cs.takeWhile (· != '/')
  let rest := cs.drop area.length
  let name := unbroken area
  if isDriveName name then .ok ("", .ofText cs)
  else if name.isEmpty then .ok ("", .ofText rest)
  else do
    let host ← Web.host name
    if host = "localhost" then return ("", .ofText rest)
    let way := Way.ofText (rest.drop 1)
    return (if way.onDrive then "" else host, way)

/-- Reads what follows `file:`. -/
def read (rest : List Char) : Except ParseError Url := do
  let (rest, fragment) := Text.cut '#' rest
  let (rest, query) := Text.cut '?' rest
  let cs := rest.map fun c => if c = '\\' then '/' else c
  let (host, way) ← match afterSlash? cs with
    | none => pure ("", Way.ofText cs)
    | some one => match afterSlash? one with
      | none => pure ("", Way.ofText one)
      | some two => readPlace two
  return .ofParts "file" (some { Authority.nobody with host }) (.localFile way.path)
    (query.map fun q => Encoded.webQuery (unbroken q))
    (fragment.map fun f => Encoded.fragment (unbroken f))

end Depot.Url.LocalFile
