import Depot.Url.Address

/-!
# Reading an authority

An authority is the text between `//` and the next slash: perhaps a user before the last `@`, a
host, and perhaps a port. What counts as a host depends on the scheme, so its reader is a
parameter.
-/

namespace Depot.Url.Authority

/-- How the authority of a scheme is read: its hosts, the port that goes without saying, and
whether the host may be left out. -/
structure Rules where
  host : List Char → Except ParseError String
  defaultPort : Option Nat
  mayBeEmpty : Bool

/-- The text before the last `@` and the text after it; all is after where there is none. -/
def splitUser (cs : List Char) : Option (List Char) × List Char :=
  match Text.cut '@' cs.reverse with
  | (after, some before) => (some before.reverse, after.reverse)
  | (_, none) => (none, cs)

/-- User and password as they are written; the first colon parts them. -/
def userOf (cs : List Char) : String × String :=
  let (user, password) := Text.cut ':' cs
  ((Encoded.userInfo user).text, (Encoded.userInfo (password.getD [])).text)

/-- The host's text, which ends at a colon outside of brackets, and what follows it. -/
def splitHost (inside : Bool) : List Char → List Char × List Char
  | [] => ([], [])
  | c :: cs =>
    if c = ':' ∧ !inside then ([], c :: cs)
    else
      let (host, rest) := splitHost (if c = '[' then true else if c = ']' then false else inside) cs
      (c :: host, rest)

/-- Reads a port up to the end or a backslash; without digits there is no port. -/
def readPort (cs : List Char) : Except ParseError (Option Nat × List Char) :=
  let digits := cs.takeWhile Text.isAsciiDigit
  let port := Text.numeral 10 digits
  match cs.drop digits.length with
  | [] | '\\' :: _ =>
    if 65535 < port then .error .port
    else .ok (if digits.isEmpty then none else some port, cs.drop digits.length)
  | _ => .error .port

/-- The user and the password, from what stands before the last `@` if there is one. An `@` with
nothing before it must not stand alone in front of a path, a query or a fragment. -/
def readUser (before : Option (List Char)) (afterUser : List Char) (more : Bool) :
    Except ParseError (String × String) :=
  match before with
  | none => .ok ("", "")
  | some [] => if afterUser.isEmpty && more then .error .emptyHost else .ok ("", "")
  | some info => .ok (userOf info)

/-- The host. It is left out only where the rules allow it and nothing follows it. -/
def readHost (rules : Rules) (hostText afterHost : List Char) : Except ParseError String := do
  if hostText.isEmpty && !rules.mayBeEmpty then throw .emptyHost
  let host ← rules.host hostText
  if host = "" ∧ (!afterHost.isEmpty ∨ !rules.mayBeEmpty) then throw .emptyHost
  return host

/-- The port behind a host and what it leaves over. -/
def readAfterHost (afterHost : List Char) : Except ParseError (Option Nat × List Char) :=
  match afterHost with
  | ':' :: portText => readPort portText
  | rest => .ok (none, rest)

/-- Reads the authority `cs`. `more` says whether a path, a query or a fragment follows. Also
answers what a backslash after the port leaves over, which belongs to the path. -/
def read (rules : Rules) (cs : List Char) (more : Bool) :
    Except ParseError (Authority × List Char) := do
  let (before, afterUser) := splitUser cs
  let (user, password) ← readUser before afterUser more
  let (hostText, afterHost) := splitHost false afterUser
  let host ← readHost rules hostText afterHost
  let (port, rest) ← readAfterHost afterHost
  if host = "" ∧ ¬(user = "" ∧ password = "") then throw .emptyHost
  return (⟨user, password, host, if port = rules.defaultPort then none else port⟩, rest)

/-! ## Hosts -/

/-- An address in brackets. -/
def bracketed (cs : List Char) : Except ParseError String :=
  match cs.getLast? with
  | some ']' => match Address.ipv6? cs.dropLast with
    | some groups => .ok ("[" ++ Address.ipv6Text groups ++ "]")
    | none => .error .ipv6
  | _ => .error .ipv6

/-- Characters that no host name holds. -/
def isForbidden (c : Char) : Bool :=
  c == '\x00' || c == '\t' || c == '\n' || c == '\r' || c == ' ' || c == '#' || c == '/' ||
    c == ':' || c == '<' || c == '>' || c == '?' || c == '@' || c == '[' || c == '\\' ||
    c == ']' || c == '^' || c == '|'

/-- A host of a scheme that gives no meaning to it: kept in its case, escaped where needed. -/
def plainHost (cs : List Char) : Except ParseError String :=
  match cs with
  | '[' :: rest => bracketed rest
  | _ =>
    if cs.any isForbidden then .error .domainCharacter
    else .ok (Encoded.rootless cs).text

/-- Authorities of schemes in general. -/
def Rules.general : Rules := ⟨plainHost, none, true⟩

end Depot.Url.Authority
