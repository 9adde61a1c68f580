/-!
# Structured data

Configurations and descriptions of files travel as values: numbers, texts, lists and tables. Two
notations write such values, and they differ in what they put up with: a list may stand for a
record in both, but only in one of them may it have elements to spare.
-/

namespace Depot

/-- A piece of structured data. -/
inductive Value where
  | null
  | bool (b : Bool)
  | int (n : Int)
  /-- A number that is not written as a whole one. -/
  | real (digits : String)
  | text (s : String)
  /-- A date, a time of day, or both. -/
  | date (s : String)
  | list (items : List Value)
  | table (fields : List (String × Value))
  deriving Repr, Inhabited

/-- The notation a value was written in. -/
inductive DataFormat where
  | json
  | toml
  deriving DecidableEq, Repr

namespace Value

/-! ## Taking values apart -/

/-- A text. -/
def text? : Value → Option String
  | .text s => some s
  | _ => none

/-- A truth value. -/
def bool? : Value → Option Bool
  | .bool b => some b
  | _ => none

/-- A whole number between two bounds. -/
def int? (low high : Int) : Value → Option Int
  | .int n => if low ≤ n ∧ n ≤ high then some n else none
  | _ => none

/-- The elements of a list. -/
def list? : Value → Option (List Value)
  | .list items => some items
  | _ => none

/-- What a record has for each of its fields. A table names them; a list has them in their order,
and may end early. A closed record has no fields but its own. -/
def record? (form : DataFormat) (closed : Bool) (names : List String) :
    Value → Option (List (Option Value))
  | .table fields =>
    if closed && fields.any fun f => !names.contains f.1 then none
    else some (names.map (List.lookup · fields))
  | .list items =>
    if form = .json ∧ names.length < items.length then none
    else some (names.zipIdx.map fun (_, i) => items[i]?)
  | _ => none

/-- Whether a value says nothing, as what stands behind a choice without details. -/
def isBlank (form : DataFormat) : Value → Bool
  | .null => form = .json
  | .list items => form = .toml && items.isEmpty
  | .table fields => form = .toml && fields.isEmpty
  | _ => false

/-- One of several words, alone or as the only field of a table with nothing behind it. -/
def choice? {α : Type} (form : DataFormat) (choices : List (String × α)) : Value → Option α
  | .text s => List.lookup s choices
  | .table [(s, v)] => if v.isBlank form then List.lookup s choices else none
  | _ => none

/-- A field that may be left out, but not be something else. -/
def orElse {α : Type} (fallback : α) (read : Value → Option α) : Option Value → Option α
  | some v => read v
  | none => some fallback

/-! ## Bounds of whole numbers -/

/-- A signed number of 64 bits. -/
def signed? : Value → Option Int :=
  int? (-0x8000000000000000) 0x7FFFFFFFFFFFFFFF

/-- An unsigned number of 64 bits. -/
def unsigned? (v : Value) : Option Nat :=
  (v.int? 0 0xFFFFFFFFFFFFFFFF).map Int.toNat

end Value

end Depot
