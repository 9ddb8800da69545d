import DexQuery.Pattern.Automaton
import DexQuery.Pattern.Basic
import DexQuery.Pattern.Trie

/-!
# The size of patterns

A pattern is matched by two machines that step through the bytes of a text: one runs forward and
marks where groups begin and end, the other runs backward from the end of a match to its start.
Neither may be too large.
-/

namespace DexQuery
namespace Pattern

/-- The bytes of a literal. -/
def literalBytes (cs : List Char) : List UInt8 := cs.flatMap String.utf8EncodeChar

/-- The bytes of literals, if all of a list of patterns are literals. -/
def literals? : List Node → Option (List (List UInt8))
  | [] => some []
  | .literal cs :: ns => (literals? ns).map (literalBytes cs :: ·)
  | _ => none

/-- Builds the trie of a choice between literals. -/
def Building.trie (backward : Bool) (literals : List (List UInt8)) : Building Bool := do
  let _ ← state 0
  let trie := literals.foldl (fun t bs => t.insert (if backward then bs.reverse else bs)) Trie.leaf
  let (states, bytes) := trie.size 0 0
  take states bytes
  pure false

mutual

/-- Builds the machine of a pattern. Running backward, it takes sequences from their ends and does
not mark groups. -/
def Node.build (backward : Bool) : Node → Building Bool
  | .empty => do let _ ← Building.state 0; pure false
  | .literal cs => do
    let n := (literalBytes cs).length
    Building.take n (32 * n)
    pure false
  | .set s => Building.set backward s
  | .look _ => do let _ ← Building.state 0; pure false
  | .repetition a least most _ =>
    Building.repetition (a.shortest.any (0 < ·)) least most (a.build backward)
  | .group a =>
    if backward then a.build backward
    else do
      let _ ← Building.state 0
      let u ← a.build backward
      let _ ← Building.state 0
      Building.link u
      pure false
  | .concat ns =>
    let builds := Node.buildsOnto backward ns []
    Building.inOrder (if backward then builds else builds.reverse)
  | .alternate ns =>
    let builds := (Node.buildsOnto backward ns []).reverse
    match literals? ns with
    | some literals => Building.trie backward literals
    | none => Building.choice builds

/-- The steps that build the machines of patterns, the last first and put before those in `done`. -/
def Node.buildsOnto (backward : Bool) : List Node → List (Building Bool) → List (Building Bool)
  | [], done => done
  | n :: ns, done => Node.buildsOnto backward ns (n.build backward :: done)

end

mutual

/-- Whether every match begins where a condition holds, as far as the pattern says so. -/
def Node.beginsWith (l : Look) : Node → Bool
  | .empty => false
  | .literal _ => false
  | .set _ => false
  | .look m => l == m
  | .repetition a least _ _ => 0 < least && a.beginsWith l
  | .group a => a.beginsWith l
  | .concat ns => Node.startsWith l ns
  | .alternate ns => Node.allBeginWith l ns

/-- Whether every match of patterns one after another begins where a condition holds. -/
def Node.startsWith (l : Look) : List Node → Bool
  | [] => false
  | n :: ns => n.beginsWith l || (n.isEmptyOnly && Node.startsWith l ns)

/-- Whether every match of each of the patterns begins where a condition holds. -/
def Node.allBeginWith (l : Look) : List Node → Bool
  | [] => true
  | n :: ns => n.beginsWith l && Node.allBeginWith l ns

end

mutual

/-- Whether every match ends where a condition holds, as far as the pattern says so. -/
def Node.endsWith (l : Look) : Node → Bool
  | .empty => false
  | .literal _ => false
  | .set _ => false
  | .look m => l == m
  | .repetition a least _ _ => 0 < least && a.endsWith l
  | .group a => a.endsWith l
  | .concat ns => Node.stopsWith l ns
  | .alternate ns => Node.allEndWith l ns

/-- Whether every match of patterns one after another ends where a condition holds. -/
def Node.stopsWith (l : Look) : List Node → Bool
  | [] => false
  | n :: ns => Node.stopsWith l ns || (Node.areEmptyOnly ns && n.endsWith l)

/-- Whether every match of each of the patterns ends where a condition holds. -/
def Node.allEndWith (l : Look) : List Node → Bool
  | [] => true
  | n :: ns => n.endsWith l && Node.allEndWith l ns

end

/-- Builds the machine of a whole pattern. Unless its matches can only begin at the end of the text
from which the machine runs, it first skips any bytes. The forward machine marks the whole match. -/
def Node.buildWhole (backward : Bool) (n : Node) : Building Unit := do
  let bound := if backward then n.endsWith .stop else n.beginsWith .start
  let skip := if bound then Node.empty.build backward
    else Building.star true do
      let _ ← Building.state 0
      let _ ← Building.state 8
      pure false
  Building.link (← skip)
  Building.link (← (Node.group n).build backward)
  let _ ← Building.state 0

/-- How many literals in a choice are so many that they are sought all at once, without a
machine. -/
def manyLiterals : Nat := 3000

/-- Whether a pattern is a choice between many literals. -/
def Node.isManyLiterals : Node → Bool
  | .alternate ns => (literals? ns).any fun ls => manyLiterals ≤ ls.length
  | _ => false

/-- Whether the machines for a pattern are not too large. -/
def Node.fits (n : Node) : Bool :=
  n.isManyLiterals ||
    ((n.buildWhole false ⟨0, 0⟩).isSome && (n.buildWhole true ⟨0, 0⟩).isSome)

end Pattern
end DexQuery
