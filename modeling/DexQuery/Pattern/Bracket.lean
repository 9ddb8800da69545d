import DexQuery.Pattern.Escape

/-!
# Sets between brackets

Between `[` and `]` stand characters, ranges `a-z`, escapes, ASCII classes such as `[:alpha:]` and
further sets between brackets, and the operators `&&`, `--` and `~~`, which all bind alike and from
the left. A `^` in front negates. Each `-` in front is itself, and so is a `]` that comes first.

Every part counts the depth of nesting in it, which is limited for a pattern as a whole.
-/

namespace DexQuery
namespace Pattern

/-- A part of a set, and how deep it is nested. -/
structure Part where
  set : CharSet
  depth : Nat

/-- The operators on sets. -/
inductive SetOp where
  | inter
  | diff
  | symmDiff

/-- Applies an operator. -/
def SetOp.apply : SetOp → CharSet → CharSet → CharSet
  | .inter => CharSet.inter
  | .diff => CharSet.diff
  | .symmDiff => CharSet.symmDiff

/-- What is open while a set is read: a bracket, with the parts that stand before it in the set
around it, or an operator with its left side. -/
inductive Opened where
  | bracket (before : List Part) (negated : Bool)
  | operator (op : SetOp) (left : Part)

/-- The parts of a set put together; the parts stand last first. -/
def Part.ofList (parts : List Part) : Part :=
  match parts with
  | [] => ⟨CharSet.empty, 0⟩
  | [p] => p
  | ps => ⟨CharSet.unions (ps.map Part.set), 1 + ps.foldl (fun d p => max d p.depth) 0⟩

/-- Applies the operator that is open, if one is, to its left side and `right`. -/
def closeOperator (f : Flags) (right : Part) : List Opened → Part × List Opened
  | .operator op left :: outer =>
    (⟨op.apply (f.close left.set) (f.close right.set), 1 + max left.depth right.depth⟩, outer)
  | outer => (right, outer)

/-- A character as a part, refused if it is a byte that is not ASCII. -/
def Part.ofChar? (f : Flags) (c : Char) : Option Part :=
  if f.unicode || c.toNat < 0x80 then some ⟨CharSet.single c, 0⟩ else none

/-- One item of a set: a character, or an escape. -/
def item? (f : Flags) : List Char → Option (Escape × List Char)
  | [] => none
  | '\\' :: r => escape? f r
  | c :: r => some (.literal c false, r)

/-- The character after the next one, without a look at blanks and at the first `#` in extended
mode; if nothing else follows, the character next to it. -/
def peek (f : Flags) (r : List Char) : Option Char :=
  if !f.extended then r.head?
  else
    let afterBlanks := r.dropWhile Text.isBlank
    let found := match afterBlanks with
      | '#' :: s => (s.dropWhile Text.isBlank).head?
      | s => s.head?
    found.or r.head?

/-- A character, a range or an escape of a set, and the text after it. -/
def range? (f : Flags) (cs : List Char) : Option (Part × List Char) :=
  match item? f cs with
  | none => none
  | some (first, rest) =>
    match f.skip rest with
    | [] => none
    | c :: r =>
      if c ≠ '-' ∨ peek f r = some ']' ∨ peek f r = some '-' then
        match first with
        | .literal a _ => (Part.ofChar? f a).map fun p => (p, c :: r)
        | .set s => some (⟨s, 0⟩, c :: r)
        | .look _ => none
      else
        match f.skip r with
        | [] => none
        | after =>
          match first, item? f after with
          | .literal a _, some (.literal b _, rest') =>
            if b < a then none
            else if f.unicode || b.toNat < 0x80 then some (⟨CharSet.range a b, 0⟩, rest')
            else none
          | _, _ => none

/-- An ASCII class such as `[:alpha:]` at the front of the text, and the text after it. -/
def asciiClass? (f : Flags) (cs : List Char) : Option (Option Part × List Char) :=
  match cs with
  | '[' :: ':' :: r =>
    let (negated, body) := match r with
      | '^' :: r' => (true, r')
      | _ => (false, r)
    match body.dropWhile (· ≠ ':') with
    | ':' :: ']' :: after =>
      (CharSet.asciiClass? (String.ofList (body.takeWhile (· ≠ ':')))).map fun s =>
        ((f.finish negated s).map fun s => ⟨s, 0⟩, after)
    | _ => none
  | _ => none

/-- The dashes in front of a set, as parts put before `parts`, and the text after them. -/
def leadingDashes (f : Flags) (parts : List Part) (cs : List Char) : List Part × List Char :=
  match cs with
  | '-' :: r => leadingDashes f (⟨CharSet.single '-', 0⟩ :: parts) (f.skip r)
  | _ => (parts, cs)
termination_by cs.length
decreasing_by exact Nat.lt_succ_of_le (f.length_skip_le r)

/-- What follows an opening bracket: whether the set is negated, its first parts, and the text
after them. -/
def openBracket? (f : Flags) (cs : List Char) : Option (Bool × List Part × List Char) :=
  let (negated, body) := match f.skip cs with
    | '^' :: r => (true, f.skip r)
    | r => (false, r)
  match leadingDashes f [] body with
  | (_, []) => none
  | ([], ']' :: r) =>
    match f.skip r with
    | [] => none
    | rest => some (negated, [⟨CharSet.single ']', 0⟩], rest)
  | (parts, rest) => some (negated, parts, rest)

/-- Reads on in a set, with what is open and the parts read since, last first. Every round takes a
character, and there are at most `n` of them. -/
def readSet (f : Flags) : Nat → List Opened → List Part → List Char →
    Option (Part × List Char)
  | 0, _, _, _ => none
  | n + 1, opened, parts, cs =>
    match f.skip cs with
    | [] => none
    | '&' :: '&' :: r =>
      let (left, outer) := closeOperator f (Part.ofList parts) opened
      readSet f n (.operator .inter left :: outer) [] r
    | '-' :: '-' :: r =>
      let (left, outer) := closeOperator f (Part.ofList parts) opened
      readSet f n (.operator .diff left :: outer) [] r
    | '~' :: '~' :: r =>
      let (left, outer) := closeOperator f (Part.ofList parts) opened
      readSet f n (.operator .symmDiff left :: outer) [] r
    | '[' :: r =>
      match asciiClass? f ('[' :: r) with
      | some (none, _) => none
      | some (some p, after) => readSet f n opened (p :: parts) after
      | none =>
        match openBracket? f r with
        | none => none
        | some (negated, inner, after) => readSet f n (.bracket parts negated :: opened) inner after
    | ']' :: r =>
      match closeOperator f (Part.ofList parts) opened with
      | (whole, .bracket before negated :: outer) =>
        match f.finish negated whole.set with
        | none => none
        | some s =>
          if outer.isEmpty then some (⟨s, whole.depth + 1⟩, r)
          else readSet f n outer (⟨s, whole.depth + 1⟩ :: before) r
      | _ => none
    | rest =>
      match range? f rest with
      | none => none
      | some (p, after) => readSet f n opened (p :: parts) after

/-- The set whose opening bracket has been read, and the text after it. The text has fewer than `n`
characters. -/
def bracketed? (f : Flags) (n : Nat) (cs : List Char) : Option (Part × List Char) :=
  match openBracket? f cs with
  | none => none
  | some (negated, parts, rest) => readSet f n [.bracket [] negated] parts rest

end Pattern
end DexQuery
