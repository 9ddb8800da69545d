/-!
# Machines

A pattern is matched by machines that step from state to state. A pattern is refused if a machine
for it is too large, so the size of machines is counted here as they are built. What the states do
does not matter for it.

A state takes 32 bytes. A table of steps takes 8 bytes more for each of them, and a branch takes 4
more for each state that it leads to; so where a part of a machine ends with a branch, it costs
these 4 to let another part follow.
-/

namespace DexQuery
namespace Pattern

/-- A machine being built: how many states it has and how many bytes they take. -/
structure Machine where
  states : Nat
  bytes : Nat

/-- The largest number of bytes that a machine may take. -/
def sizeLimit : Nat := 10 * 1024 * 1024

/-- A step in building a machine; it fails when the machine gets too large. -/
abbrev Building (α : Type) := StateT Machine Option α

namespace Building

/-- Takes `n` more bytes for `states` more states. -/
def take (states n : Nat) : Building Unit := fun m =>
  if m.bytes + n ≤ sizeLimit then some ((), ⟨m.states + states, m.bytes + n⟩) else none

/-- Adds a state that takes `extra` bytes beyond those of every state, and gives its number. -/
def state (extra : Nat) : Building Nat := do
  let number := (← get).states
  take 1 (32 + extra)
  pure number

/-- Lets a part follow on a state, which may be a branch. -/
def link (branch : Bool) : Building Unit := take 0 (if branch then 4 else 0)

/-- Builds parts one after another. Each part says whether it ends with a branch. -/
def inOrder : List (Building Bool) → Building Bool
  | [] => do let _ ← state 0; pure false
  | [b] => b
  | b :: bs => do link (← b); inOrder bs

/-- Builds a part `n` times, one after another. -/
def copies (b : Building Bool) : Nat → Building Bool
  | 0 => inOrder []
  | 1 => b
  | n + 1 => do link (← b); copies b n

/-- Builds the further branches of a choice. -/
def moreBranches : List (Building Bool) → Building Unit
  | [] => pure ()
  | b :: bs => do
    let u ← b
    link true
    link u
    moreBranches bs

/-- Builds a choice between parts. -/
def choice : List (Building Bool) → Building Bool
  | a :: b :: rest => do
    let u ← a
    let v ← b
    let _ ← state 0
    let _ ← state 0
    link true
    link u
    link true
    link v
    moreBranches rest
    pure false
  | bs => inOrder bs

/-- Builds a part that may be left out. -/
def optional (b : Building Bool) : Building Bool := do
  let _ ← state 0
  let u ← b
  let _ ← state 0
  link true
  link true
  link u
  pure false

/-- Builds a part that may come any number of times. If it takes no text, it is kept apart from the
branch that leaves it out. -/
def star (takesText : Bool) (b : Building Bool) : Building Bool := do
  if takesText then
    let _ ← state 0
    let u ← b
    link true
    link u
    pure true
  else
    let u ← b
    let _ ← state 0
    link u
    link true
    let _ ← state 0
    let _ ← state 0
    link true
    link true
    link true
    pure false

/-- Builds a part that comes at least once. -/
def plus (b : Building Bool) : Building Bool := do
  let u ← b
  let _ ← state 0
  link u
  link true
  pure true

/-- Builds up to `n` further times a part, each of which may be the first to be left out; `u` says
whether what stands before them ends with a branch. -/
def upTo (b : Building Bool) : Nat → Bool → Building Unit
  | 0, u => link u
  | n + 1, u => do
    let _ ← state 0
    let v ← b
    link u
    link true
    link true
    upTo b n v

/-- Builds a repetition. -/
def repetition (takesText : Bool) (least : Nat) (most : Option Nat) (b : Building Bool) :
    Building Bool := do
  match least, most with
  | 0, some 1 => optional b
  | 0, none => star takesText b
  | 1, none => plus b
  | n + 1, none => do
    link (← copies b n)
    plus b
  | n, some m =>
    let u ← copies b n
    if n = m then pure u
    else
      let _ ← state 0
      upTo b (m - n) u
      pure false

end Building

end Pattern
end DexQuery
