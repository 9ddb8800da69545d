import DexQuery.Keyed

/-!
# JSON values

A number is an integer when it is written as one and fits in 64 bits, signed or unsigned; every
other number is a binary64, kept by its bits. The members of an object are a finite map in key
order (`DexQuery.Keyed`): of two members of one key the later counts.
-/

namespace DexQuery

/-- A number in a JSON value. -/
inductive Json.Number where
  | int (value : Int)
  | float (bits : UInt64)
deriving DecidableEq

/-- A JSON value. -/
inductive Json where
  | null
  | bool (value : Bool)
  | number (value : Json.Number)
  | string (value : String)
  | array (items : List Json)
  | object (members : List (String × Json))

namespace Json

/-- The object with the given members. -/
def ofMembers (members : List (String × Json)) : Json := .object (Keyed.ofList members)

/-- A natural number as a value. -/
def nat (n : Nat) : Json := .number (.int n)

/-- A list of texts as a value. -/
def strings (ss : List String) : Json := .array (ss.map .string)

/-- A text that may be absent as a value. -/
def optString : Option String → Json
  | none => .null
  | some s => .string s

/-- The value of a member, if the value is an object that has it. -/
def member? (name : String) : Json → Option Json
  | .object ms => Keyed.get? name ms
  | _ => none

/-- The text that a value is. -/
def asString? : Json → Option String
  | .string s => some s
  | _ => none

/-- The truth value that a value is. -/
def asBool? : Json → Option Bool
  | .bool b => some b
  | _ => none

/-- The natural number that a value is. -/
def asNat? : Json → Option Nat
  | .number (.int i) => if 0 ≤ i then some i.toNat else none
  | _ => none

/-- Whether the value is an integer. -/
def isInt : Json → Bool
  | .number (.int _) => true
  | _ => false

/-- Whether the value is null. -/
def isNull : Json → Bool
  | .null => true
  | _ => false

end Json
end DexQuery
