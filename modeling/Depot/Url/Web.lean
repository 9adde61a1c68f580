import Depot.Url.Authority
import Depot.Url.Domain

/-!
# Addresses of the web

The schemes of the web have rules of their own: a backslash counts as a slash, the path is never
empty, host names are read in any script and written in ASCII, and the usual port is left out.
-/

namespace Depot.Url.Web

/-- Characters that no host name of the web holds. -/
def isForbidden (c : Char) : Bool :=
  Authority.isForbidden c || c == '%' || c.toNat < 0x20 || c.toNat == 0x7F

/-- A host name of the web, or the address that it spells. -/
def host (cs : List Char) : Except ParseError String :=
  match cs with
  | '[' :: rest => Authority.bracketed rest
  | _ =>
    match (Percent.decode? cs).bind Domain.toAscii? with
    | none => .error .internationalDomain
    | some ascii =>
      if ascii.any isForbidden then .error .internationalDomain
      else if ascii.isEmpty then .error .emptyHost
      else if Address.endsInNumber ascii then
        match Address.ipv4? ascii with
        | some n => .ok (Address.ipv4Text n)
        | none => .error .ipv4
      else .ok (String.ofList ascii)

/-! ## Schemes -/

/-- The port that goes without saying, for each scheme of the web. -/
def port? : String → Option Nat
  | "http" | "ws" => some 80
  | "https" | "wss" => some 443
  | "ftp" => some 21
  | _ => none

/-- Reads what follows the scheme and its slashes, where backslashes are slashes already. -/
def readPlace (port : Nat) (cs : List Char) (more : Bool) :
    Except ParseError (Authority × Path) := do
  let area := cs.takeWhile (· != '/')
  let path := cs.drop area.length
  let (authority, _) ← Authority.read ⟨host, some port, false⟩ area (more || !path.isEmpty)
  return (authority, Path.ofText (path.drop 1))

/-- Reads what follows the scheme of the given usual port. -/
def read (scheme : String) (port : Nat) (rest : List Char) : Except ParseError Url := do
  let (rest, fragment) := Text.cut '#' rest
  let (rest, query) := Text.cut '?' rest
  let cs := rest.map fun c => if c = '\\' then '/' else c
  let more := query.isSome || fragment.isSome
  let (authority, path) ← readPlace port (Text.trimStart '/' cs) more
  return .ofParts scheme (some authority) (.rooted path) (query.map Encoded.webQuery)
    (fragment.map Encoded.fragment)

end Depot.Url.Web
