import DexQuery.Pattern.Bracket
import DexQuery.Pattern.Size
import DexQuery.Unicode.Letter

/-!
# Reading patterns

A pattern is read from left to right with a stack of the groups that are still open. A repetition
applies to the part before it, which may not be missing and may not be a setting of flags. The
nesting of a pattern and the size of a matcher for it are limited.
-/

namespace DexQuery
namespace Pattern

/-- A part of a pattern, and how deep it is nested. -/
structure Piece where
  node : Node
  depth : Nat

/-- An item of a sequence: a part of the pattern, or a setting of flags. -/
abbrev Item := Option Piece

/-- A part without nesting. -/
def Piece.leaf (n : Node) : Piece := ⟨n, 0⟩

/-- A list of parts joined by `join`; it is one level deeper than they are, unless it is one. -/
def Piece.joined (join : List Node → Node) (ps : List Piece) : Piece :=
  match ps with
  | [] => .leaf .empty
  | [p] => p
  | ps => ⟨join (ps.map Piece.node), 1 + ps.foldl (fun d q => max d q.depth) 0⟩

/-- The items of a sequence, last first, as one part. -/
def Piece.ofItems (items : List Item) : Piece :=
  Piece.joined Node.sequence (items.reverse.map fun i => i.getD (.leaf .empty))

/-- What has been read of a group, or of the whole pattern: the finished branches and the items of
the branch that is being read, both last first. -/
structure Level where
  branches : List Piece
  items : List Item

/-- The level with nothing read. -/
def Level.fresh : Level := ⟨[], []⟩

/-- The level with one more item. -/
def Level.add (l : Level) (i : Item) : Level := { l with items := i :: l.items }

/-- The level as one part. -/
def Level.close (l : Level) : Piece :=
  Piece.joined Node.choice (Piece.ofItems l.items :: l.branches).reverse

/-- A group that is open: the level around it, the flags that hold again after it, and whether it
has a number. -/
structure OpenGroup where
  level : Level
  flags : Flags
  numbered : Bool

/-- What has been read of a pattern: the flags that hold, the level that is being read, the groups
around it, and the names of groups so far. -/
structure Progress where
  flags : Flags
  level : Level
  outer : List OpenGroup
  names : List String

/-- The progress with one more item. -/
def Progress.add (p : Progress) (i : Item) : Progress := { p with level := p.level.add i }

/-- The progress with one more part. -/
def Progress.addNode (p : Progress) (n : Node) : Progress := p.add (some (.leaf n))

/-- The set of one character, closed under case if the flags ask for it. -/
def Flags.char (f : Flags) (c : Char) : CharSet :=
  let s := CharSet.single c
  if f.caseless && (f.unicode || c.isAlpha) then f.close s else s

/-- The node of an escape, refused if it is a byte that is not ASCII. -/
def nodeOfEscape? (f : Flags) : Escape → Option Node
  | .literal c byte =>
    if byte && !f.unicode && 0x80 ≤ c.toNat then none else some (.ofSet (f.char c))
  | .set s => some (.ofSet s)
  | .look l => some (.look l)

/-- The set of a dot. Without Unicode mode it would match parts of characters. -/
def Flags.dot? (f : Flags) : Option CharSet :=
  if !f.unicode then none
  else if f.dotAll then some CharSet.full
  else if f.crlf then some (CharSet.ranges [('\n', '\n'), ('\r', '\r')]).compl
  else some (CharSet.single '\n').compl

/-- The condition of `^`. -/
def Flags.caret (f : Flags) : Look :=
  if !f.multiLine then .start else if f.crlf then .lineStartCrLf else .lineStart

/-- The condition of `$`. -/
def Flags.dollar (f : Flags) : Look :=
  if !f.multiLine then .stop else if f.crlf then .lineStopCrLf else .lineStop

/-! ## Repetitions -/

/-- The largest count of a repetition. -/
def countLimit : Nat := Nat.pow 2 32 - 1

/-- The digits in front, between which blanks may stand in extended mode, and the text after
them. -/
def countDigits (f : Flags) (acc : List Char) (cs : List Char) : List Char × List Char :=
  match cs with
  | [] => (acc.reverse, [])
  | c :: r =>
    if c.isDigit then countDigits f (c :: acc) (f.skip r) else (acc.reverse, c :: r)
termination_by cs.length
decreasing_by exact Nat.lt_succ_of_le (f.length_skip_le r)

/-- A count, with blanks around it, and the text after it. -/
def count? (f : Flags) (cs : List Char) : Option (Nat × List Char) :=
  match countDigits f [] (cs.dropWhile Text.isBlank) with
  | ([], _) => none
  | (ds, rest) =>
    let n := ds.foldl (fun n d => 10 * n + (d.toNat - '0'.toNat)) 0
    if countLimit < n then none else some (n, rest.dropWhile Text.isBlank)

/-- The counts between braces, of which the opening one has been read, and the text after them. -/
def counts? (f : Flags) (cs : List Char) : Option ((Nat × Option Nat) × List Char) :=
  match count? f (f.skip cs) with
  | none => none
  | some (least, '\x7d' :: r) => some ((least, some least), r)
  | some (least, ',' :: r) =>
    match f.skip r with
    | '\x7d' :: r' => some ((least, none), r')
    | rest =>
      match count? f rest with
      | some (most, '\x7d' :: r') => if least ≤ most then some ((least, some most), r') else none
      | _ => none
  | some _ => none

/-- Whether a repetition is greedy, which a `?` after it turns around, and the text after it. -/
def greed (f : Flags) : List Char → Bool × List Char
  | '?' :: r => (f.swapGreed, r)
  | r => (!f.swapGreed, r)

/-- Repeats the last item; `cs` is the text after the counts. -/
def Progress.repetition? (p : Progress) (least : Nat) (most : Option Nat) (cs : List Char) :
    Option (Progress × List Char) :=
  let (greedy, rest) := greed p.flags cs
  match p.level.items with
  | some q :: items =>
    let item : Item := some ⟨q.node.repeated least most greedy, q.depth + 1⟩
    some ({ p with level := { p.level with items := item :: items } }, rest)
  | _ => none

/-! ## Groups -/

/-- Whether a character may stand in the name of a group. -/
def isNameChar (c : Char) : Bool :=
  c == '_' || c == '.' || c == '[' || c == ']' || Unicode.isLetterOrNumber c

/-- The name of a group that is new, and the text after its `>`. -/
def groupName? (names : List String) (cs : List Char) : Option (String × List Char) :=
  let name := cs.takeWhile (· ≠ '>')
  match name, cs.dropWhile (· ≠ '>') with
  | c :: _, _ :: rest =>
    if (c == '_' || Unicode.isLetter c) && name.all isNameChar &&
        !names.contains (String.ofList name) then
      some (String.ofList name, rest)
    else none
  | _, _ => none

/-- The letters of flags up to a colon or a closing parenthesis, which of the two it is, and the
text after it. No letter may stand twice, nor may `-`, and something follows it. -/
def flagLetters? (seen : List Char) : List Char → Option (List Char × Char × List Char)
  | [] => none
  | c :: r =>
    if c = ':' ∨ c = ')' then
      if seen.head? = some '-' then none else some (seen.reverse, c, r)
    else if (c = '-' ∨ c ∈ flagLetters) ∧ c ∉ seen then flagLetters? (c :: seen) r
    else none

/-- Goes into a group in which `flags` hold. -/
def Progress.enter (p : Progress) (flags : Flags) (numbered : Bool) : Progress :=
  { p with flags := flags, level := Level.fresh, outer := ⟨p.level, p.flags, numbered⟩ :: p.outer }

/-- Takes what follows an opening parenthesis: a group begins, or flags are set. -/
def Progress.openGroup? (p : Progress) (cs : List Char) : Option (Progress × List Char) :=
  let named (r : List Char) :=
    (groupName? p.names r).map fun (name, rest) =>
      ({ p.enter p.flags true with names := name :: p.names }, rest)
  match p.flags.skip cs with
  | '?' :: '=' :: _ => none
  | '?' :: '!' :: _ => none
  | '?' :: '<' :: '=' :: _ => none
  | '?' :: '<' :: '!' :: _ => none
  | '?' :: 'P' :: '<' :: r => named r
  | '?' :: '<' :: r => named r
  | '?' :: r =>
    match flagLetters? [] r with
    | none => none
    | some (letters, stop, rest) =>
      let flags := p.flags.switchAll letters
      if stop = ')' then
        if letters = [] then none else some ({ p.add none with flags := flags }, rest)
      else some (p.enter flags false, rest)
  | rest => some (p.enter p.flags true, rest)

/-- Closes the group that is being read. -/
def Progress.closeGroup? (p : Progress) : Option Progress :=
  match p.outer with
  | [] => none
  | g :: outer =>
    let inner := p.level.close
    let node := if g.numbered then .group inner.node else inner.node
    some ⟨g.flags, g.level.add (some ⟨node, inner.depth + 1⟩), outer, p.names⟩

/-! ## Patterns -/

/-- Takes the next part of a pattern, which begins with `c`. The text `r` after that has fewer than
`n` characters. -/
def Progress.step? (p : Progress) (n : Nat) (c : Char) (r : List Char) :
    Option (Progress × List Char) :=
  match c with
  | '(' => p.openGroup? r
  | ')' => p.closeGroup?.map fun q => (q, r)
  | '|' =>
    some ({ p with level := ⟨Piece.ofItems p.level.items :: p.level.branches, []⟩ }, r)
  | '[' =>
    (bracketed? p.flags n r).map fun (s, rest) => (p.add (some ⟨.ofSet s.set, s.depth⟩), rest)
  | '?' => p.repetition? 0 (some 1) r
  | '*' => p.repetition? 0 none r
  | '+' => p.repetition? 1 none r
  | '\x7b' =>
    (counts? p.flags r).bind fun (range, rest) =>
      p.repetition? range.1 range.2 (p.flags.skip rest)
  | '\\' =>
    (escape? p.flags r).bind fun (e, rest) =>
      (nodeOfEscape? p.flags e).map fun n => (p.addNode n, rest)
  | '.' => p.flags.dot?.map fun s => (p.addNode (.ofSet s), r)
  | '^' => some (p.addNode (.look p.flags.caret), r)
  | '$' => some (p.addNode (.look p.flags.dollar), r)
  | _ => some (p.addNode (.ofSet (p.flags.char c)), r)

/-- Reads on in a pattern. Every round takes a character, and there are at most `n` of them. -/
def Progress.run? : Nat → Progress → List Char → Option Progress
  | 0, _, _ => none
  | n + 1, p, cs =>
    match p.flags.skip cs with
    | [] => some p
    | c :: r => (p.step? n c r).bind fun (q, rest) => Progress.run? n q rest

/-- The deepest nesting of a pattern. -/
def nestLimit : Nat := 250

/-- The pattern that a text is, if it is one. -/
def read? (s : String) : Option Node :=
  let cs := s.toList
  match Progress.run? (cs.length + 1) ⟨Flags.start, Level.fresh, [], []⟩ cs with
  | none => none
  | some p =>
    let whole := p.level.close
    if p.outer.isEmpty && whole.depth ≤ nestLimit && whole.node.fits then
      some whole.node
    else none

end Pattern
end DexQuery
