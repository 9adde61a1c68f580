import Depot.Uri

/-!
# File names below a reference

A file name is one or more parts with slashes between them. `Uri.resolve` puts it below a
reference; a name can lead down only.
-/

namespace Depot

/-- A control character, of the first 32, delete, or the 32 after it. -/
def isControl (c : Char) : Bool :=
  c.toNat < 0x20 || (0x7F ≤ c.toNat && c.toNat < 0xA0)

/-- A part of a file name: not empty, not made of one dot or two, without backslash or control. -/
def isNamePart (part : List Char) : Bool :=
  !(part.isEmpty || part == ['.'] || part == ['.', '.'] ||
    part.any fun c => c == '\\' || isControl c)

/-- The reference that a file name leads to from `base`. -/
def Uri.resolve (base : Uri) (name : String) : Except BadReference Uri :=
  if name = "" then .error .noName
  else if (Text.split '/' name.toList).all isNamePart then .ok (base.join (Text.pieces '/' name))
  else .error (.nameForm name)

end Depot
