import DexQuery.Json.Number

/-!
# JSON documents

A document is the tree of a JSON text before it is asked for a value. It keeps the members of an
object as they are written, repeated ones included, and it keeps what only shows when it is looked
at: a text whose escapes or bytes are no characters, and a number too large for a binary64. So a
member that a reader has no use for may hold either.

A text may be nested 127 levels deep; the depth that is left is counted down by the readers of this
module and of `DexQuery.Json.Decode`. A value that is there already may be nested as deep as it is
(`DexQuery.Json.height`).
-/

namespace DexQuery
namespace Json

/-- The tree of a JSON text. A text or a number without a value is `none`. -/
inductive Document where
  | null
  | bool (value : Bool)
  | number (value : Option Number)
  | string (value : Option String)
  | array (items : List Document)
  | object (members : List (Option String × Document))

/-- The depth of nesting below which a document must stay. -/
def depthLimit : Nat := 128

mutual

/-- The value of a document, when its nesting stays below `depth` and every text and number in it
has a value. -/
def Document.value? (depth : Nat) : Document → Option Json
  | .null => some .null
  | .bool b => some (.bool b)
  | .number n => n.map .number
  | .string s => s.map .string
  | .array items =>
    if depth ≤ 1 then none
    else (Document.values? (depth - 1) items).map .array
  | .object members =>
    if depth ≤ 1 then none
    else (Document.memberValues? (depth - 1) members).map ofMembers

/-- The values of the items of an array. -/
def Document.values? (depth : Nat) : List Document → Option (List Json)
  | [] => some []
  | d :: ds =>
    match d.value? depth, Document.values? depth ds with
    | some x, some xs => some (x :: xs)
    | _, _ => none

/-- The values of the members of an object. -/
def Document.memberValues? (depth : Nat) :
    List (Option String × Document) → Option (List (String × Json))
  | [] => some []
  | (k, d) :: ds =>
    match k, d.value? depth, Document.memberValues? depth ds with
    | some k, some x, some xs => some ((k, x) :: xs)
    | _, _, _ => none

end

mutual

/-- The document of a value. -/
def toDocument : Json → Document
  | .null => .null
  | .bool b => .bool b
  | .number n => .number (some n)
  | .string s => .string (some s)
  | .array items => .array (itemDocuments items)
  | .object members => .object (memberDocuments members)

/-- The documents of the items of an array. -/
def itemDocuments : List Json → List Document
  | [] => []
  | x :: xs => toDocument x :: itemDocuments xs

/-- The documents of the members of an object. -/
def memberDocuments : List (String × Json) → List (Option String × Document)
  | [] => []
  | (k, x) :: xs => (some k, toDocument x) :: memberDocuments xs

end

mutual

/-- How deep arrays and objects are nested in a value. -/
def height : Json → Nat
  | .array items => itemsHeight items + 1
  | .object members => membersHeight members + 1
  | _ => 0

/-- How deep they are nested in the items of an array. -/
def itemsHeight : List Json → Nat
  | [] => 0
  | x :: xs => max (height x) (itemsHeight xs)

/-- How deep they are nested in the members of an object. -/
def membersHeight : List (String × Json) → Nat
  | [] => 0
  | (_, x) :: xs => max (height x) (membersHeight xs)

end

end Json
end DexQuery
