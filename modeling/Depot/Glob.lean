import Depot.Failure
import Depot.Text.Pieces

/-!
# Patterns of paths

In a pattern `*` stands for any run of characters of one segment, `?` for one such character,
`**` for any run of characters of one line, and `**/` for nothing or for such a run that ends in a
slash. Leading slashes count neither in a pattern nor in a path.

A pattern is matched from its last token to its first. For each token a column says of every
suffix of the path whether the pattern from that token on matches it.

Very long patterns are refused. What counts is the size of two automata over octets that would do
the same, one for each direction of reading.
-/

namespace Depot

/-- A part of a pattern. -/
inductive Glob.Token where
  | literal (c : Char)
  /-- `?` -/
  | one
  /-- `*` -/
  | many
  /-- `**` -/
  | anything
  /-- `**/` -/
  | places
  deriving DecidableEq, Repr

/-- A pattern of paths, with the text it was read from. -/
structure Glob where
  source : String
  tokens : List Glob.Token
  deriving DecidableEq, Repr

namespace Glob

/-- The tokens of a pattern without leading slashes. -/
def tokensOf : List Char → List Token
  | [] => []
  | '*' :: '*' :: '/' :: cs => .places :: tokensOf cs
  | '*' :: '*' :: cs => .anything :: tokensOf cs
  | '*' :: cs => .many :: tokensOf cs
  | '?' :: cs => .one :: tokensOf cs
  | c :: cs => .literal c :: tokensOf cs

/-! ## Size -/

/-- The octets of `n` states with `edges` edges and `branches` choices among them. -/
def octets (n edges branches : Nat) : Nat :=
  32 * n + 8 * edges + 4 * branches

/-- The octets that a token takes, where any character but one takes `one`. A literal has a state
for each of its octets; a run has a choice to go on or not; `**/` has another choice, the state
where both ways meet, and the slash. -/
def Token.size (one : Nat) : Token → Nat
  | .literal c => octets c.utf8Size 0 0
  | .one => one
  | .many | .anything => one + octets 1 0 2
  | .places => one + octets 4 0 4

/-- The octets of the automaton that reads forwards. For any character but one it has ten edges for
the first octet and states for the later ones, where octets of the same range share a state. -/
def forwardSize (ts : List Token) : Nat :=
  ts.foldl (fun sum t => sum + t.size (octets 9 17 0)) (octets 6 0 0)

/-- The octets of the automaton that reads backwards. For any character but one it has a choice of
ten ways, and a state for each octet of each way. -/
def backwardSize (ts : List Token) : Nat :=
  ts.foldl (fun sum t => sum + t.size (octets 30 0 10)) (octets 4 0 0)

/-- The most octets of an automaton. -/
def maxSize : Nat := 10485760

/-- Whether a pattern of these tokens is not too long. -/
def fits (ts : List Token) : Bool :=
  forwardSize ts ≤ maxSize && backwardSize ts ≤ maxSize

/-! ## Reading -/

/-- Reads a pattern; every text is one that is not too long. -/
def ofText (text : String) : Except BadReference Glob :=
  let tokens := tokensOf (Text.trimStart '/' text.toList)
  if fits tokens then .ok ⟨text, tokens⟩ else .error (.patternSize text maxSize)

/-! ## Columns -/

/-- The column after the last token: only the empty suffix is matched. -/
def endColumn : List Char → List Bool
  | [] => [true]
  | _ :: cs => false :: endColumn cs

/-- The column of a token that stands for one character that `ok` allows, before `after`. -/
def oneColumn (ok : Char → Bool) : List Char → List Bool → List Bool
  | c :: cs, _ :: after => (ok c && after.headD false) :: oneColumn ok cs after
  | _, _ => [false]

/-- The column of a token that stands for any run of characters that `ok` allows. -/
def runColumn (ok : Char → Bool) : List Char → List Bool → List Bool
  | c :: cs, here :: after =>
    let rest := runColumn ok cs after
    (here || (ok c && rest.headD false)) :: rest
  | _, after => after

/-- Of each suffix, whether after a run of one line and a slash the column `after` holds. -/
def slashColumn : List Char → List Bool → List Bool
  | c :: cs, _ :: after =>
    let rest := slashColumn cs after
    ((c == '/' && after.headD false) || (c != '\n' && rest.headD false)) :: rest
  | _, _ => [false]

/-- The column of a token, from the column of what follows it. -/
def Token.column (t : Token) (cs : List Char) (after : List Bool) : List Bool :=
  match t with
  | .literal d => oneColumn (· == d) cs after
  | .one => oneColumn (· != '/') cs after
  | .many => runColumn (· != '/') cs after
  | .anything => runColumn (· != '\n') cs after
  | .places => List.zipWith (· || ·) after (slashColumn cs after)

/-- Whether the tokens match the whole text. -/
def accepts (ts : List Token) (cs : List Char) : Bool :=
  (ts.foldr (fun t after => t.column cs after) (endColumn cs)).headD false

/-- Whether the pattern matches a path. -/
def isMatch (g : Glob) (path : String) : Bool :=
  accepts g.tokens (Text.trimStart '/' path.toList)

end Glob

/-- A choice of paths: those that a pattern includes, without those that one excludes. -/
structure PathFilter where
  includes : List Glob
  excludes : List Glob

namespace PathFilter

/-- Reads the patterns of a filter. -/
def ofTexts (includes excludes : List String) : Except BadReference PathFilter := do
  return ⟨← includes.mapM Glob.ofText, ← excludes.mapM Glob.ofText⟩

/-- Whether a path is chosen; without patterns to include, every path is included. -/
def accepts (f : PathFilter) (path : String) : Bool :=
  (f.includes.isEmpty || f.includes.any (·.isMatch path)) && !f.excludes.any (·.isMatch path)

end PathFilter

end Depot
