import Depot.Failure
import Depot.Text.Ascii

/-!
# Names and identifiers

A `Name` is a text that stands in a URI as it is, as one segment: letters, digits, `_`, `-` and
`.`, but neither one dot nor two. An `Ident` is a name for one kind of thing, so that a flow is
not taken for a task. Main statement: `Name.read_eq_ok_iff`, reading accepts exactly the names.
-/

namespace Depot

/-- A character that may stand in a name. -/
def isNameChar (c : Char) : Bool :=
  Text.isAsciiAlphanumeric c || c == '_' || c == '-' || c == '.'

/-- A text that can be one segment of a URI without being escaped or going anywhere else. -/
def IsName (s : String) : Prop :=
  ¬(s = "" ∨ s = "." ∨ s = "..") ∧ ∀ c ∈ s.toList, isNameChar c = true

instance (s : String) : Decidable (IsName s) :=
  decidable_of_decidable_of_iff
    (p := ¬(s = "" ∨ s = "." ∨ s = "..") ∧ s.toList.all isNameChar = true) (by simp [IsName])

/-- A text that is one segment of a URI. -/
structure Name where
  text : String
  isName : IsName text
  deriving DecidableEq

/-- Reads a name; `label` says what it is for, if it has to be refused. -/
def Name.read (label text : String) : Except BadReference Name :=
  if h : text = "" ∨ text = "." ∨ text = ".." then .error (.noIdentifier label text)
  else
    match f : text.toList.find? (!isNameChar ·) with
    | some c => .error (.identifierCharacter label c text)
    | none => .ok ⟨text, h, by simpa using List.find?_eq_none.1 f⟩

/-- Reading accepts exactly the names, and keeps the text. -/
theorem Name.read_eq_ok_iff {label text : String} {n : Name} :
    Name.read label text = .ok n ↔ n.text = text := by
  unfold Name.read
  split
  · next h => simpa using fun (e : n.text = text) => n.isName.1 (e ▸ h)
  · split
    · next c f =>
      simp only [reduceCtorEq, false_iff]
      rintro rfl
      have hc := n.isName.2 c (List.mem_of_find?_eq_some f)
      have := List.find?_some f
      simp [hc] at this
    · exact ⟨fun e => by cases e; rfl, fun e => by cases e; rfl⟩

/-- What an identifier is for. -/
inductive IdentKind where
  | tenant
  | flow
  | execution
  | task
  | taskRun
  | trigger
  deriving DecidableEq, Repr

/-- The word for a kind of thing. -/
def IdentKind.label : IdentKind → String
  | tenant => "tenant"
  | flow => "flow"
  | execution => "execution"
  | task => "task"
  | taskRun => "task run"
  | trigger => "trigger"

/-- The name of one thing of a kind. -/
structure Ident (kind : IdentKind) where
  name : Name
  deriving DecidableEq

namespace Ident

/-- The identifier as a text. -/
def text {kind : IdentKind} (i : Ident kind) : String :=
  i.name.text

/-- Reads an identifier. -/
def read (kind : IdentKind) (text : String) : Except BadReference (Ident kind) :=
  (Name.read kind.label text).map Ident.mk

/-- The identifier with its kind, for a reader of a log. -/
def describe {kind : IdentKind} (i : Ident kind) : String :=
  kind.label ++ "(" ++ i.text ++ ")"

end Ident

end Depot
