import Depot.Failure
import Depot.Text.Ascii
import Depot.Text.Pieces

/-!
# Namespaces

A namespace is a place in a hierarchy, written as its segments with dots between them, such as
`company.team`. Main statement: `Namespace.read_eq_ok_iff`, reading accepts exactly the texts whose
segments are all well-formed.
-/

namespace Depot

/-- A character that may stand in a segment of a namespace. -/
def isNamespaceChar (c : Char) : Bool :=
  Text.isAsciiAlphanumeric c || c == '_' || c == '-'

/-- One or more non-empty segments of letters, digits, `_` and `-`, with dots between them. -/
def IsNamespace (s : String) : Prop :=
  ∀ p ∈ Text.split '.' s.toList, p ≠ [] ∧ ∀ c ∈ p, isNamespaceChar c = true

instance (s : String) : Decidable (IsNamespace s) :=
  decidable_of_decidable_of_iff
    (p := (Text.split '.' s.toList).all (fun p => !p.isEmpty && p.all isNamespaceChar) = true)
    (by simp [IsNamespace])

/-- A workspace of a tenant, in a hierarchy of such. -/
structure Namespace where
  text : String
  isNamespace : IsNamespace text
  deriving DecidableEq

namespace Namespace

/-- Reads a namespace. -/
def read (text : String) : Except BadReference Namespace :=
  if text = "" then .error .noNamespace
  else if h : IsNamespace text then .ok ⟨text, h⟩
  else .error (.namespaceForm text)

/-- The segments from the top of the hierarchy down. -/
def segments (n : Namespace) : List String :=
  Text.pieces '.' n.text

/-- Whether a namespace is `other` or lies below it. -/
def isWithin (n other : Namespace) : Bool :=
  n == other || (other.text.toList ++ ['.']).isPrefixOf n.text.toList

/-- The namespace as a reader of a log sees it. -/
def describe (n : Namespace) : String :=
  "namespace(" ++ n.text ++ ")"

theorem not_isNamespace_empty : ¬IsNamespace "" := by
  decide

/-- Reading accepts exactly the well-formed texts, and keeps the text. -/
theorem read_eq_ok_iff {text : String} {n : Namespace} : read text = .ok n ↔ n.text = text := by
  unfold read
  split
  · next h =>
    simpa using fun (e : n.text = text) => not_isNamespace_empty (h ▸ e ▸ n.isNamespace)
  · split
    · exact ⟨fun e => by cases e; rfl, fun e => by cases e; rfl⟩
    · next h => simpa using fun (e : n.text = text) => h (e ▸ n.isNamespace)

end Namespace

end Depot
