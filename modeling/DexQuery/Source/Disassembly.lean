import DexQuery.Text.Blank

/-!
# Methods of disassembly text

A disassembly opens each method with a line that starts with `.method` and ends with the method's
name and types, and closes it with the line `.end method`. Blanks around a line do not count.
-/

namespace DexQuery
namespace Disassembly

/-- The directive that opens a method. -/
def opening : List Char := ".method".toList

/-- The line that closes a method. -/
def closing : List Char := ".end method".toList

/-- Whether `line` opens the method called `short`. -/
def opens (short line : List Char) : Bool :=
  opening.isPrefixOf (Text.trim line) && (Text.words line).getLast? == some short

/-- Whether `line` closes a method. -/
def closes (line : List Char) : Bool := Text.trim line == closing

/-- The lines up to the first that closes a method, that one included; all of them if none does. -/
def throughClosing : List (List Char) → List (List Char)
  | [] => []
  | l :: ls => if closes l then [l] else l :: throughClosing ls

/-- The lines of the first method called `short`. -/
def blockLines? (short : List Char) (lines : List (List Char)) : Option (List (List Char)) :=
  match lines.dropWhile fun l => !opens short l with
  | [] => none
  | l :: ls => some (l :: throughClosing ls)

/-- The text of the first method of `unit` called `short`. -/
def method? (unit short : String) : Option String :=
  (blockLines? short.toList (Text.lines unit.toList)).map fun ls =>
    String.ofList (Text.joinWith ['\n'] ls)

end Disassembly
end DexQuery
