import DexQuery.Unicode.Runs

/-!
# Sets of characters

A set of characters is written as stretches of code points in ascending order, each with a gap
before it. Surrogates are code points but no characters, so no stretch begins or ends with one. A
stretch may run over all of them; U+D7FF and U+E000 are neighbours as characters, but stretches
that end and begin there stay apart.

Union, intersection and the differences are those of sets of code points. The complement is made of
the gaps between the stretches. Where the gap is that between U+D7FF and U+E000, its ends come out
crossed, and it is read as these two characters.
-/

namespace DexQuery

/-- The code points from `first` to `last`. -/
structure Span where
  first : Nat
  last : Nat
deriving DecidableEq

namespace Span

/-- The span of one character. -/
def single (c : Char) : Span := ⟨c.toNat, c.toNat⟩

/-- The code point of the character after `n`. -/
def above (n : Nat) : Nat := if n = 0xD7FF then 0xE000 else n + 1

/-- The code point of the character before `n`. -/
def below (n : Nat) : Nat := if n = 0xE000 then 0xD7FF else n - 1

/-- The span between two code points, whichever comes first. -/
def between (a b : Nat) : Span := ⟨min a b, max a b⟩

/-- The spans of an ascending list, with `s` before them, in which those that touch or overlap are
made one. -/
def absorb (s : Span) : List Span → List Span
  | [] => [s]
  | t :: rest =>
    if t.first ≤ s.last + 1 then absorb ⟨s.first, max s.last t.last⟩ rest
    else s :: absorb t rest

/-- The spans of a list in ascending order and with gaps between them. -/
def normal (spans : List Span) : List Span :=
  match spans.mergeSort fun s t => s.first ≤ t.first with
  | [] => []
  | s :: rest => absorb s rest

/-- What is in spans of both lists. -/
def inter : List Span → List Span → List Span
  | [], _ => []
  | _, [] => []
  | s :: ss, t :: ts =>
    let common : Span := ⟨max s.first t.first, min s.last t.last⟩
    let rest := if s.last < t.last then inter ss (t :: ts) else inter (s :: ss) ts
    if common.first ≤ common.last then common :: rest else rest
termination_by ss ts => ss.length + ts.length

/-- What is in spans of the first list and in none of the second. -/
def diff : List Span → List Span → List Span
  | [], _ => []
  | ss, [] => ss
  | s :: ss, t :: ts =>
    if t.last < s.first then diff (s :: ss) ts
    else if s.last < t.first then s :: diff ss (t :: ts)
    else
      let rest :=
        if t.last < s.last then diff (⟨above t.last, s.last⟩ :: ss) ts else diff ss (t :: ts)
      if s.first < t.first then ⟨s.first, below t.first⟩ :: rest else rest
termination_by ss ts => ss.length + ts.length

/-- The gaps in an ascending list of spans, after the end of the one before them, which is at
`last`. -/
def gaps (last : Nat) : List Span → List Span
  | [] => if last < Unicode.lastCodePoint then [⟨above last, Unicode.lastCodePoint⟩] else []
  | s :: rest => between (above last) (below s.first) :: gaps s.last rest

/-- What is in no span of an ascending list. -/
def compl : List Span → List Span
  | [] => [⟨0, Unicode.lastCodePoint⟩]
  | s :: rest =>
    if 0 < s.first then ⟨0, below s.first⟩ :: gaps s.last rest else gaps s.last rest

end Span

/-- A set of characters. -/
structure CharSet where
  spans : Array Span
deriving DecidableEq

namespace CharSet

/-- Whether a character is in the set. -/
def mem (a : CharSet) (c : Char) : Bool :=
  match a.spans[Unicode.seek Span.first a.spans c.toNat 0 a.spans.size]? with
  | some s => s.first ≤ c.toNat && c.toNat ≤ s.last
  | none => false

/-- The set of what is in some span of a list. -/
def ofSpans (spans : List Span) : CharSet := ⟨(Span.normal spans).toArray⟩

/-- The set without members. -/
def empty : CharSet := ⟨#[]⟩

/-- The set of all characters. -/
def full : CharSet := ⟨#[⟨0, Unicode.lastCodePoint⟩]⟩

/-- The set of one character. -/
def single (c : Char) : CharSet := ⟨#[Span.single c]⟩

/-- The characters from `lo` to `hi`. -/
def range (lo hi : Char) : CharSet := ⟨#[⟨lo.toNat, hi.toNat⟩]⟩

/-- The set of the characters in ranges, given by their first and last ones. -/
def ranges (rs : List (Char × Char)) : CharSet :=
  ofSpans (rs.map fun r => ⟨r.1.toNat, r.2.toNat⟩)

/-- The set of the characters in runs of which the label is wanted. -/
def ofRuns (runs : Array Unicode.Run) (wanted : String → Bool) : CharSet :=
  ofSpans ((Unicode.Run.stretches wanted runs.toList).map fun s => ⟨s.1, s.2⟩)

/-- The set of the characters in runs marked `+`. -/
def ofMarks (runs : String) : CharSet := ofRuns (Unicode.Run.ofText runs) (· == "+")

/-- The characters of any set of a list. -/
def unions (sets : List CharSet) : CharSet := ofSpans (sets.flatMap fun s => s.spans.toList)

/-- The characters of either set. -/
def union (a b : CharSet) : CharSet := unions [a, b]

/-- The characters of both sets. -/
def inter (a b : CharSet) : CharSet := ⟨(Span.inter a.spans.toList b.spans.toList).toArray⟩

/-- The characters of `a` that are not in `b`. -/
def diff (a b : CharSet) : CharSet := ⟨(Span.diff a.spans.toList b.spans.toList).toArray⟩

/-- The characters of exactly one of the sets. -/
def symmDiff (a b : CharSet) : CharSet := (a.union b).diff (a.inter b)

/-- The characters that are not in the set. -/
def compl (a : CharSet) : CharSet := ⟨(Span.compl a.spans.toList).toArray⟩

/-- The complement of the set if `negated` holds, else the set. -/
def complIf (negated : Bool) (a : CharSet) : CharSet := if negated then a.compl else a

/-- Whether all members are ASCII. -/
def isAscii (a : CharSet) : Bool := a.spans.back?.all fun s => s.last < 0x80

end CharSet
end DexQuery
