import DexQuery.Pattern.Look

/-!
# Patterns and what they match

A pattern matches stretches of a text. Its meaning is a function on sets of positions: from where
it may start to where it may end. A set of positions is a strictly ascending list.

Patterns are put together by functions that keep them simple: sequences and choices are flat and
have at least two parts, neighbouring literals are one, choices between characters are sets, and
what all branches of a choice begin with stands before it.
-/

namespace DexQuery
namespace Pattern

/-- A pattern. A repetition without `most` has no upper bound; whether it is `greedy` changes only
which of several matches is found first. -/
inductive Node where
  | empty
  | literal (cs : List Char)
  | set (s : CharSet)
  | look (l : Look)
  | repetition (a : Node) (least : Nat) (most : Option Nat) (greedy : Bool)
  | group (a : Node)
  | concat (ns : List Node)
  | alternate (ns : List Node)

/-! ## Lengths of matches -/

mutual

/-- Whether the pattern matches nothing but empty stretches. -/
def Node.isEmptyOnly : Node → Bool
  | .empty => true
  | .literal cs => cs.isEmpty
  | .set _ => false
  | .look _ => true
  | .repetition a _ _ _ => a.isEmptyOnly
  | .group a => a.isEmptyOnly
  | .concat ns => Node.areEmptyOnly ns
  | .alternate ns => Node.areEmptyOnly ns

/-- Whether all patterns of a list match nothing but empty stretches. -/
def Node.areEmptyOnly : List Node → Bool
  | [] => true
  | n :: ns => n.isEmptyOnly && Node.areEmptyOnly ns

end

/-- The smaller of two lengths, unknown if one of them is. -/
def leastOf (a b : Option Nat) : Option Nat := a.bind fun a => b.map (min a)

mutual

/-- The length of the shortest match, unknown if a part of the pattern never matches. -/
def Node.shortest : Node → Option Nat
  | .empty => some 0
  | .literal cs => some cs.length
  | .set s => if s.spans.isEmpty then none else some 1
  | .look _ => some 0
  | .repetition a least _ _ => a.shortest.map (least * ·)
  | .group a => a.shortest
  | .concat ns => Node.shortestInOrder ns
  | .alternate [] => none
  | .alternate (n :: ns) => Node.shortestOf n.shortest ns

/-- The length of the shortest match of patterns one after another. -/
def Node.shortestInOrder : List Node → Option Nat
  | [] => some 0
  | n :: ns => n.shortest.bind fun a => (Node.shortestInOrder ns).map (a + ·)

/-- The least of a length and those of the shortest matches of patterns. -/
def Node.shortestOf (least : Option Nat) : List Node → Option Nat
  | [] => least
  | n :: ns => Node.shortestOf (leastOf least n.shortest) ns

end

/-! ## Putting patterns together -/

mutual

/-- Whether two patterns are written alike. Two groups never are, since each has its own number. -/
def Node.isLike : Node → Node → Bool
  | .empty, .empty => true
  | .literal a, .literal b => a == b
  | .set a, .set b => a == b
  | .look a, .look b => a == b
  | .repetition a least most greedy, .repetition b least' most' greedy' =>
    least == least' && most == most' && greedy == greedy' && a.isLike b
  | .concat as, .concat bs => Node.areLike as bs
  | .alternate as, .alternate bs => Node.areLike as bs
  | _, _ => false

/-- Whether two lists of patterns are written alike. -/
def Node.areLike : List Node → List Node → Bool
  | [], [] => true
  | a :: as, b :: bs => a.isLike b && Node.areLike as bs
  | _, _ => false

end

/-- The pattern that matches nothing. -/
def Node.never : Node := .set CharSet.empty

/-- The pattern of one character of a set. -/
def Node.ofSet (s : CharSet) : Node :=
  match s.spans.toList with
  | [⟨a, b⟩] => if a = b then .literal [Char.ofNat a] else .set s
  | _ => .set s

/-- The parts of a pattern as they stand in a sequence. -/
def Node.parts : Node → List Node
  | .empty => []
  | .concat ns => ns
  | n => [n]

/-- A part put before a sequence, made one with its first part if both are literals. -/
def Node.putBefore (n : Node) (rest : List Node) : List Node :=
  match n, rest with
  | .literal a, .literal b :: rest => .literal (a ++ b) :: rest
  | n, rest => n :: rest

/-- The patterns one after another. -/
def Node.sequence (ns : List Node) : Node :=
  match (ns.flatMap Node.parts).foldr Node.putBefore [] with
  | [] => .empty
  | [n] => n
  | parts => .concat parts

/-- The branches of a pattern as they stand in a choice. -/
def Node.branches : Node → List Node
  | .alternate ns => ns
  | n => [n]

/-- The characters that patterns of one character each stand for, if all of them are literals. -/
def Node.characters? : List Node → Option (List Char)
  | [] => some []
  | .literal [c] :: ns => (Node.characters? ns).map (c :: ·)
  | _ => none

/-- The sets that patterns are, if all of them are sets. -/
def Node.sets? : List Node → Option (List CharSet)
  | [] => some []
  | .set s :: ns => (Node.sets? ns).map (s :: ·)
  | _ => none

/-- The choice between branches as they stand, or the set of characters that they are. -/
def Node.choiceOfBranches (ns : List Node) : Node :=
  match ns with
  | [] => Node.never
  | [n] => n
  | ns =>
    match Node.characters? ns, Node.sets? ns with
    | some cs, _ => Node.ofSet (CharSet.ofSpans (cs.map Span.single))
    | none, some sets => Node.ofSet (CharSet.unions sets)
    | none, none => .alternate ns

/-- The sequences that patterns are, if all of them are sequences. -/
def Node.sequences? : List Node → Option (List (List Node))
  | [] => some []
  | .concat ns :: rest => (Node.sequences? rest).map (ns :: ·)
  | _ => none

/-- What both sequences begin with. -/
def Node.commonStart : List Node → List Node → List Node
  | a :: as, b :: bs => if a.isLike b then a :: Node.commonStart as bs else []
  | _, _ => []

/-- The choice between patterns. What all branches begin with is put before it; what then follows
does not begin alike in all of them. -/
def Node.choice (ns : List Node) : Node :=
  let branches := ns.flatMap Node.branches
  match Node.choiceOfBranches branches with
  | .alternate ms =>
    match Node.sequences? ms with
    | some (first :: rest) =>
      let start := rest.foldl Node.commonStart first
      if start.isEmpty then .alternate ms
      else
        let ends := (first :: rest).map fun ms => Node.sequence (ms.drop start.length)
        Node.sequence (start ++ [Node.choiceOfBranches (ends.flatMap Node.branches)])
    | _ => .alternate ms
  | n => n

/-- A pattern over and over. To repeat what matches only empty stretches changes nothing after the
first time. -/
def Node.repeated (a : Node) (least : Nat) (most : Option Nat) (greedy : Bool) : Node :=
  let least := if a.isEmptyOnly then min least 1 else least
  let most := if a.isEmptyOnly then some (min (most.getD 1) 1) else most
  if most = some 0 then .empty
  else if least = 1 ∧ most = some 1 then a
  else .repetition a least most greedy

/-! ## Sets of positions -/

/-- The union of two ascending lists. -/
def mergePositions : List Nat → List Nat → List Nat
  | [], ys => ys
  | xs, [] => xs
  | x :: xs, y :: ys =>
    if x < y then x :: mergePositions xs (y :: ys)
    else if y < x then y :: mergePositions (x :: xs) ys
    else x :: mergePositions xs ys
termination_by xs ys => xs.length + ys.length

/-- The positions of an ascending list that are not in the other. -/
def removePositions : List Nat → List Nat → List Nat
  | [], _ => []
  | xs, [] => xs
  | x :: xs, y :: ys =>
    if x < y then x :: removePositions xs (y :: ys)
    else if y < x then removePositions (x :: xs) ys
    else removePositions xs ys
termination_by xs ys => xs.length + ys.length

/-- The positions reached by `n` steps. Where a step changes nothing, no further one does. -/
def stepExactly (step : List Nat → List Nat) : Nat → List Nat → List Nat
  | 0, ps => ps
  | n + 1, ps =>
    let next := step ps
    if next == ps then ps else stepExactly step n next

/-- The positions `reached`, and those reached by at most `n` steps from the `fresh` ones. -/
def stepUpTo (step : List Nat → List Nat) : Nat → List Nat → List Nat → List Nat
  | 0, reached, _ => reached
  | n + 1, reached, fresh =>
    let next := removePositions (step fresh) reached
    if next.isEmpty then reached else stepUpTo step n (mergePositions reached next) next

/-- The position after a literal that stands at a position. -/
def literalEnd? (t : Array Char) : List Char → Nat → Option Nat
  | [], i => some i
  | c :: cs, i => if t[i]? == some c then literalEnd? t cs (i + 1) else none

mutual

/-- The positions where a match may end that starts at one of `ps`. A repetition without bound
reaches all it can in as many rounds as there are positions. -/
def Node.ends (t : Array Char) : Node → List Nat → List Nat
  | .empty, ps => ps
  | .literal cs, ps => ps.filterMap (literalEnd? t cs)
  | .set s, ps => ps.filterMap fun i => if t[i]?.any s.mem then some (i + 1) else none
  | .look l, ps => ps.filter fun i => l.holds t i
  | .repetition a least most _, ps =>
    let after := stepExactly (fun qs => a.ends t qs) least ps
    stepUpTo (fun qs => a.ends t qs) (match most with
      | some m => min (m - least) (t.size + 1)
      | none => t.size + 1) after after
  | .group a, ps => a.ends t ps
  | .concat ns, ps => Node.endsInOrder t ns ps
  | .alternate ns, ps => Node.endsOfAny t ns ps

/-- The positions where matches of patterns one after another may end. -/
def Node.endsInOrder (t : Array Char) : List Node → List Nat → List Nat
  | [], ps => ps
  | n :: ns, ps => Node.endsInOrder t ns (n.ends t ps)

/-- The positions where a match of one of the patterns may end. -/
def Node.endsOfAny (t : Array Char) : List Node → List Nat → List Nat
  | [], _ => []
  | n :: ns, ps => mergePositions (n.ends t ps) (Node.endsOfAny t ns ps)

end

/-- Whether the pattern matches a stretch of the text. -/
def Node.matchesIn (n : Node) (text : String) : Bool :=
  let t := text.toList.toArray
  !(n.ends t (List.range (t.size + 1))).isEmpty

end Pattern
end DexQuery
