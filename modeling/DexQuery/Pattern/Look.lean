import DexQuery.CharSet.Class

/-!
# Conditions on a position

A pattern may ask for what stands on either side of a position: the ends of the text, of lines and
of words. A position is a number of characters.
-/

namespace DexQuery
namespace Pattern

/-- A condition on a position of a text. -/
inductive Look where
  | start
  | stop
  | lineStart
  | lineStop
  | lineStartCrLf
  | lineStopCrLf
  | wordEdge (unicode : Bool)
  | noWordEdge (unicode : Bool)
  | wordStart (unicode : Bool)
  | wordStop (unicode : Bool)
  | wordStartHalf (unicode : Bool)
  | wordStopHalf (unicode : Bool)
deriving DecidableEq

/-- The character before a position. -/
def before? (t : Array Char) (i : Nat) : Option Char := if i = 0 then none else t[i - 1]?

/-- Whether there is a character and it is part of words. -/
def isWordAt (unicode : Bool) (c : Option Char) : Bool := c.any (CharSet.word unicode).mem

/-- Whether the condition holds at a position. -/
def Look.holds (t : Array Char) (i : Nat) : Look → Bool
  | .start => i == 0
  | .stop => i == t.size
  | .lineStart => i == 0 || before? t i == some '\n'
  | .lineStop => i == t.size || t[i]? == some '\n'
  | .lineStartCrLf =>
    i == 0 || before? t i == some '\n' || (before? t i == some '\r' && t[i]? != some '\n')
  | .lineStopCrLf =>
    i == t.size || t[i]? == some '\r' || (t[i]? == some '\n' && before? t i != some '\r')
  | .wordEdge u => isWordAt u (before? t i) != isWordAt u t[i]?
  | .noWordEdge u => isWordAt u (before? t i) == isWordAt u t[i]?
  | .wordStart u => !isWordAt u (before? t i) && isWordAt u t[i]?
  | .wordStop u => isWordAt u (before? t i) && !isWordAt u t[i]?
  | .wordStartHalf u => !isWordAt u (before? t i)
  | .wordStopHalf u => !isWordAt u t[i]?

end Pattern
end DexQuery
