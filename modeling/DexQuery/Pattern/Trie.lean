/-!
# Tries of literals

A choice between literals is matched by a trie of their bytes. The literals are in order of
preference: one that ends where others go on comes before those that are longer and were put in
after it. So the edges of a node stand in groups, with the ends of literals between them, and only
the group after the last end takes new edges.
-/

namespace DexQuery
namespace Pattern

/-- A node of a trie: its edges, the newest first, with the ends of literals between them. -/
inductive Trie where
  | leaf
  | edge (byte : UInt8) (child : Trie) (older : Trie)
  | ended (older : Trie)

namespace Trie

/-- Whether a node has no edges. -/
def isLeaf : Trie → Bool
  | .leaf => true
  | .edge _ _ _ => false
  | .ended older => older.isLeaf

/-- The child of a node along a byte, if an edge of the newest group leads to it. -/
def child? (byte : UInt8) : Trie → Option Trie
  | .edge b child older => if b = byte then some child else older.child? byte
  | _ => none

/-- The node with another child along a byte. -/
def setChild (byte : UInt8) (child : Trie) : Trie → Trie
  | .edge b c older =>
    if b = byte then .edge b child older else .edge b c (setChild byte child older)
  | t => t

/-- The node with the end of a literal. Another one changes nothing where nothing goes on. -/
def endHere (t : Trie) : Trie :=
  match t with
  | .ended older => if older.isLeaf then t else .ended t
  | t => .ended t

/-- The node with one more literal. -/
def insert : List UInt8 → Trie → Trie
  | [], t => t.endHere
  | b :: bs, t =>
    match t.child? b with
    | some child => setChild b (child.insert bs) t
    | none => .edge b (insert bs .leaf) t

/-- The states of a machine and their bytes for a group of `edges` edges: none for none, a step for
one and a table of steps for more. -/
def groupSize (edges : Nat) : Nat × Nat :=
  if edges = 0 then (0, 0) else if edges = 1 then (1, 32) else (1, 32 + 8 * edges)

/-- The states of a machine and their bytes for a node, of which `edges` edges of a group and the
`entries` of newer groups and ends have been counted. A node is a branch to its groups and, where a
literal ends, to the end of the machine. Children without edges are that end. -/
def size (edges entries : Nat) : Trie → Nat × Nat
  | .leaf =>
    let (states, bytes) := groupSize edges
    (states + 1, bytes + 32 + 4 * (entries + states))
  | .edge _ child older =>
    let (states, bytes) := if child.isLeaf then (0, 0) else child.size 0 0
    let (states', bytes') := older.size (edges + 1) entries
    (states + states', bytes + bytes')
  | .ended older =>
    let (states, bytes) := groupSize edges
    let (states', bytes') := older.size 0 (entries + states + 1)
    (states + states', bytes + bytes')

end Trie
end Pattern
end DexQuery
