import DexQuery.Text.Offset
import DexQuery.Text.Pieces

/-!
# Paths

A path below the root of a file tree is the list of its names. Paths are written with `/` between
names; `~/` in front stands for the home directory.
-/

namespace DexQuery
namespace Files

/-- A path from the root, outermost name first. -/
abbrev Path := List String

/-- The longest name, in bytes. -/
def nameLimit : Nat := 255

/-- Texts of paths are shorter than this, in bytes. -/
def pathLimit : Nat := 4096

/-- Whether a text holds a NUL character. -/
def hasNul (s : String) : Bool := s.toList.any (· == '\x00')

/-- Whether a name is too long for a directory entry. -/
def tooLong (name : String) : Bool := nameLimit < Text.size name.toList

/-- The text of an absolute path. -/
def pathText (p : Path) : String := String.join (p.map fun n => "/" ++ n)

/-- `base` followed by the relative path `s`; an absolute `s` stands alone. -/
def joinText (base s : String) : String :=
  if s.toList.head? = some '/' then s
  else if base.toList.getLast? = some '/' then base ++ s
  else base ++ "/" ++ s

/-- A path with a leading `~/` replaced by the home directory, if there is one. -/
def expandHome (home : Option String) (path : String) : String :=
  match home, path.toList with
  | some h, '~' :: '/' :: r => joinText h (String.ofList r)
  | _, _ => path

/-- Follows one name from a directory, without a look at what exists. -/
def followName (base : Path) (name : String) : Path :=
  if name = "" ∨ name = "." then base
  else if name = ".." then base.dropLast
  else base ++ [name]

/-- The path that a text stands for when relative texts start from `cwd`. -/
def Path.ofText (cwd : Path) (s : String) : Path :=
  (Text.split '/' s).foldl followName (if s.toList.head? = some '/' then [] else cwd)

end Files
end DexQuery
