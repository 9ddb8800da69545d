import DexQuery.Text.Pieces

/-!
# Runs of code points

A property of characters is written as a text of runs that follow one another through the code
space from 0: each run is a label without digits and the number of its code points in decimal.
Line ends and spaces in the text do not count.
-/

namespace DexQuery
namespace Unicode

/-- The largest code point. -/
def lastCodePoint : Nat := 0x10FFFF

/-- A run of code points from `first` on that share a label. -/
structure Run where
  first : Nat
  label : String

/-- What has been read of a text of runs: the runs before, the next code point, the label and the
length of the current run, and whether a digit of the length has been read. -/
structure RunReader where
  done : Array Run
  next : Nat
  label : List Char
  length : Nat
  counting : Bool

/-- Takes one character of a text of runs. -/
def RunReader.take (s : RunReader) (c : Char) : RunReader :=
  if c.isWhitespace then s
  else if c.isDigit then { s with length := s.length * 10 + (c.toNat - '0'.toNat), counting := true }
  else if s.counting then
    ⟨s.done.push ⟨s.next, String.ofList s.label.reverse⟩, s.next + s.length, [c], 0, false⟩
  else { s with label := c :: s.label }

/-- The runs that a text writes down. -/
def Run.ofText (s : String) : Array Run :=
  let r := s.toList.foldl RunReader.take ⟨#[], 0, [], 0, false⟩
  r.done.push ⟨r.next, String.ofList r.label.reverse⟩

/-- The index of the last element of an array that starts at or before `n`, sought from `lo` on and
before `hi`. The elements ascend by `start`, and the one at `lo` is taken if none is found. -/
def seek (start : α → Nat) (xs : Array α) (n lo hi : Nat) : Nat :=
  if lo + 1 < hi then
    let mid := (lo + hi) / 2
    match xs[mid]? with
    | some x => if start x ≤ n then seek start xs n mid hi else seek start xs n lo mid
    | none => lo
  else lo
termination_by hi - lo

/-- The label of the run in which a code point lies. -/
def Run.labelAt (runs : Array Run) (n : Nat) : String :=
  match runs[seek Run.first runs n 0 runs.size]? with
  | some r => r.label
  | none => ""

/-- The first and the last code point of each run in a list of which the label is wanted. -/
def Run.stretches (wanted : String → Bool) : List Run → List (Nat × Nat)
  | [] => []
  | [r] => if wanted r.label then [(r.first, lastCodePoint)] else []
  | r :: next :: rest =>
    if wanted r.label then (r.first, next.first - 1) :: Run.stretches wanted (next :: rest)
    else Run.stretches wanted (next :: rest)

end Unicode
end DexQuery
