import Depot.Toml.Quoted
import Depot.Value

/-!
# The tree of a document

A document says piece by piece what its tables hold. A table comes about in one of three ways, and
where more may be said about it depends on the way: by a header of its own, as the ancestor of a
table with a header, or by a key with dots. Nothing is said twice.
-/

namespace Depot.Toml

/-- How a table has come about. -/
inductive Origin where
  /-- It has a header, or is written as one value. -/
  | headed
  /-- A table below it has a header. -/
  | implied
  /-- A key leads through it. -/
  | dotted
  deriving DecidableEq, Repr

/-- What a name in a table stands for. -/
inductive Node where
  | leaf (v : Value)
  | table (origin : Origin) (fields : List (String × Node))
  /-- Tables under one header, all of which have it. -/
  | series (tables : List (List (String × Node)))

/-- What a table holds. -/
abbrev Fields := List (String × Node)

/-- Something that a document says: a place and the value there. -/
structure Assignment where
  key : Key
  value : Value

namespace Fields

/-- The table with what a name stands for set anew, in its place if it is there. -/
def set (fields : Fields) (name : String) (n : Node) : Fields :=
  if (fields.lookup name).isSome then
    fields.map fun f => if f.1 = name then (name, n) else f
  else fields ++ [(name, n)]

/-- Changes the table that a path leads to. Missing tables on the way come about as `made`. What
is no table is not gone through, a series is gone through its last table, and a key with dots does
not lead through a table that has a header. -/
def updateAt (made : Origin) (change : Origin → Fields → Option Fields) :
    List String → Origin → Fields → Option Fields
  | [], origin, fields => change origin fields
  | name :: path, _, fields =>
    match fields.lookup name with
    | none => (updateAt made change path made []).map fun t => fields.set name (.table made t)
    | some (.leaf _) => none
    | some (.table origin t) =>
      if made = .dotted ∧ origin = .headed then none
      else (updateAt made change path origin t).map fun t => fields.set name (.table origin t)
    | some (.series tables) =>
      match tables.getLast? with
      | none => none
      | some t => (updateAt made change path .headed t).map fun t =>
          fields.set name (.series (tables.dropLast ++ [t]))

/-- Adds what is assigned in a table. A name is new in its table, and a key with dots ends in a table
that only such keys have made. -/
def add (fields : Fields) (a : Assignment) : Option Fields :=
  updateAt .dotted (fun origin inner =>
      if a.key.path ≠ [] ∧ origin ≠ .dotted ∨ (inner.lookup a.key.name).isSome then none
      else some (inner ++ [(a.key.name, .leaf a.value)]))
    a.key.path .headed fields

/-- Adds all that is assigned in a table. -/
def addAll (fields : Fields) (assignments : List Assignment) : Option Fields :=
  assignments.foldlM add fields

end Fields

/-! ## Sections -/

/-- What a section begins with. -/
structure Header where
  key : Key
  /-- Whether the section is one more table of a series. -/
  repeated : Bool

/-- A header with what is assigned under it. -/
structure Section where
  header : Header
  assignments : List Assignment

/-- What a name stands for when a section is put there. A table may have been implied before, but
has no second header. -/
def Section.node (s : Section) (found : Option Node) : Option Node :=
  match s.header.repeated, found with
  | false, none => (Fields.addAll [] s.assignments).map (.table .headed)
  | false, some (.table .implied t) => (Fields.addAll t s.assignments).map (.table .headed)
  | true, none => (Fields.addAll [] s.assignments).map fun t => .series [t]
  | true, some (.series tables) =>
    (Fields.addAll [] s.assignments).map fun t => .series (tables ++ [t])
  | _, _ => none

/-- Adds a section to the table of the whole document. -/
def Fields.addSection (fields : Fields) (s : Section) : Option Fields :=
  updateAt .implied (fun _ inner => do
      return inner.set s.header.key.name (← s.node (inner.lookup s.header.key.name)))
    s.header.key.path .headed fields

/-! ## Values -/

mutual

/-- The tree as a value. -/
def Node.toValue : Node → Value
  | .leaf v => v
  | .table _ fields => .table (fieldValues fields)
  | .series tables => .list (tableValues tables)

/-- The fields of a table as values. -/
def fieldValues : List (String × Node) → List (String × Value)
  | [] => []
  | (name, n) :: fields => (name, n.toValue) :: fieldValues fields

/-- Tables as values. -/
def tableValues : List (List (String × Node)) → List Value
  | [] => []
  | t :: tables => .table (fieldValues t) :: tableValues tables

end

/-- A table as a value. -/
def Fields.toValue (fields : Fields) : Value :=
  .table (fieldValues fields)

end Depot.Toml
