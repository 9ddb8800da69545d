import DexQuery.Pattern.Machine
import DexQuery.Pattern.Utf8
import Std.Data.HashMap

/-!
# Automata of sets of characters

A set of characters is matched by an automaton over bytes. Running forward, the sequences of bytes
are put in one after another in ascending order, so that those which begin alike share what they
begin with, and tables of steps that are alike become one state. Running backward, the sequences
stand side by side, and those that end alike share what they end with.

That tables or steps are alike is noticed by a memory that has one place for all that have one
remainder of their hash, and that forgets what was in the place before. Hashes are of numbers of
states, so the size of an automaton depends on how many states there are before it.
-/

namespace DexQuery
namespace Pattern

/-- A step of a table: the bytes it takes and the number of the state it leads to. -/
structure Step where
  bytes : ByteSpan
  next : Nat
deriving DecidableEq

/-- A hash with one more number. -/
def mixHash (h n : UInt64) : UInt64 := (h ^^^ n) * 1099511628211

/-- The hash of nothing. -/
def startHash : UInt64 := 14695981039346656037

/-- The hash of steps, the last first. -/
def hashSteps (steps : List Step) : UInt64 :=
  steps.foldr
    (fun s h =>
      mixHash (mixHash (mixHash h s.bytes.first.toUInt64) s.bytes.last.toUInt64)
        (UInt64.ofNat s.next))
    startHash

/-- How many tables are remembered. -/
def tablePlaces : UInt64 := 10000

/-- How many tails are remembered. -/
def tailPlaces : UInt64 := 1000

/-- A node of an automaton that is not yet a state: its finished steps, the last first, and the
bytes of the step on which its automaton still grows. -/
structure OpenNode where
  steps : List Step
  growing : Option ByteSpan

/-- The steps of a node when the one that still grows leads to a state. -/
def OpenNode.close (n : OpenNode) (next : Nat) : List Step :=
  match n.growing with
  | some b => ⟨b, next⟩ :: n.steps
  | none => n.steps

/-- What is known of the tables built before: by place, the steps and the state. -/
abbrev Tables := Std.HashMap UInt64 (List Step × Nat)

/-- The state for a table of steps, one built before if it is still remembered. -/
def tableState (known : Tables) (steps : List Step) : Building (Nat × Tables) := do
  let place := hashSteps steps % tablePlaces
  match known[place]? with
  | some (steps', number) =>
    if steps = steps' then pure (number, known)
    else
      let number ← Building.state (8 * steps.length)
      pure (number, known.insert place (steps, number))
  | none =>
    let number ← Building.state (8 * steps.length)
    pure (number, known.insert place (steps, number))

/-- Makes states of the innermost nodes of `nodes`, all but the `depth` outermost ones and one more,
of which the growing step is finished. The innermost node comes first and grows towards `next`. -/
def closeNodes (depth : Nat) (known : Tables) (next : Nat) :
    List OpenNode → Building (List OpenNode × Tables)
  | [] => pure ([], known)
  | n :: outer =>
    if depth < outer.length then do
      let (number, known) ← tableState known (n.close next)
      closeNodes depth known number outer
    else pure (⟨n.close next, none⟩ :: outer, known)

/-- The number of outermost nodes that grow on the first spans of a sequence. The outermost node
comes first. -/
def sharedDepth : List ByteSpan → List OpenNode → Nat
  | b :: bs, n :: ns => if n.growing = some b then sharedDepth bs ns + 1 else 0
  | _, _ => 0

/-- The innermost nodes `nodes` grown by the spans of a sequence, the first on the innermost
node. -/
def growNodes (spans : List ByteSpan) (nodes : List OpenNode) : List OpenNode :=
  match spans, nodes with
  | b :: bs, n :: outer =>
    bs.foldl (fun ns b => ⟨[], some b⟩ :: ns) (⟨n.steps, some b⟩ :: outer)
  | _, _ => nodes

/-- Builds the forward automaton of ascending sequences of spans of bytes: sequences that begin
alike share what they begin with, and equal tables are built once while they are remembered. -/
def forwardSequences (target : Nat) (known : Tables) (nodes : List OpenNode) :
    List (List ByteSpan) → Building Unit
  | [] => do
    let (nodes, known) ← closeNodes 0 known target nodes
    match nodes with
    | n :: _ => do let _ ← tableState known n.steps
    | [] => pure ()
  | spans :: rest => do
    let depth := sharedDepth spans nodes.reverse
    let (nodes, known) ← closeNodes depth known target nodes
    forwardSequences target known (growNodes (spans.drop depth) nodes) rest

/-- What is known of the steps built before: by place, the step and the state that takes it. -/
abbrev Tails := Std.HashMap UInt64 (Step × Nat)

/-- Builds the steps of a sequence that begin at its first span and lead to `next`; steps built
before are shared if they are still remembered. -/
def backwardSpans (known : Tails) (next : Nat) : List ByteSpan → Building Tails
  | [] => do
    Building.link true
    pure known
  | b :: bs => do
    let h := mixHash (mixHash (mixHash startHash (UInt64.ofNat next)) b.first.toUInt64)
      b.last.toUInt64
    let place := h % tailPlaces
    match known[place]? with
    | some (step, number) =>
      if step = ⟨b, next⟩ then backwardSpans known number bs
      else
        let number ← Building.state 0
        backwardSpans (known.insert place (⟨b, next⟩, number)) number bs
    | none =>
      let number ← Building.state 0
      backwardSpans (known.insert place (⟨b, next⟩, number)) number bs

/-- Builds the backward automaton of sequences of spans of bytes: a branch to the last span of each
sequence, from where it leads to its first. -/
def backwardSequences (target : Nat) (known : Tails) : List (List ByteSpan) → Building Unit
  | [] => pure ()
  | spans :: rest => do
    let known ← backwardSpans known target spans
    backwardSequences target known rest

/-- Builds the automaton of a set. A set of ASCII is one table. -/
def Building.set (backward : Bool) (s : CharSet) : Building Bool := do
  if s.isAscii then
    let _ ← state 0
    let _ ← state (8 * s.spans.size)
  else if backward then
    let _ ← state 0
    let target ← state 0
    backwardSequences target ∅ (byteSequences s)
  else
    let target ← state 0
    forwardSequences target ∅ [⟨[], none⟩] (byteSequences s)
  pure false

end Pattern
end DexQuery
