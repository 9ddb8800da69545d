import DexQuery.Json.Document

/-!
# Decoding documents

A decoder takes a document to a value of a type, given the depth of nesting that is left. A record
is written as an object, or as an array of its fields in order. In an object the order of members
does not matter and members that the record does not have are passed over; a field that occurs
twice is refused. A field that is absent has its default or is refused.
-/

namespace DexQuery
namespace Json

/-- Takes a document to a value, given the depth that is left. -/
abbrev Decoder (α : Type) := Nat → Document → Option α

namespace Decode

variable {α : Type}

/-- What a decoder makes of a value. -/
def ofValue? (d : Decoder α) (j : Json) : Option α := d (j.height + 1) j.toDocument

/-- A text. -/
def text : Decoder String
  | _, .string s => s
  | _, _ => none

/-- A truth value. -/
def bool : Decoder Bool
  | _, .bool b => some b
  | _, _ => none

/-- A natural number of 64 bits. -/
def nat : Decoder Nat
  | _, .number (some (.int i)) => if 0 ≤ i then some i.toNat else none
  | _, _ => none

/-- Any value. -/
def json : Decoder Json := Document.value?

/-- A value, or nothing for null. -/
def optional (d : Decoder α) : Decoder (Option α)
  | _, .null => some none
  | n, doc => (d n doc).map some

/-- A list of values. -/
def list (d : Decoder α) : Decoder (List α)
  | n, .array items => if n ≤ 1 then none else items.mapM (d (n - 1))
  | _, _ => none

/-- The members of an object whose keys are all texts. -/
def keyed? : List (Option String × Document) → Option (List (String × Document))
  | [] => some []
  | (none, _) :: _ => none
  | (some k, d) :: r => (keyed? r).map ((k, d) :: ·)

/-- A finite map from texts, of which a later member of a key wins. -/
def table (d : Decoder α) : Decoder (List (String × α))
  | n, .object members =>
    if n ≤ 1 then none
    else do
      let ms ← keyed? members
      let es ← ms.mapM fun m => (d (n - 1) m.2).map fun x => (m.1, x)
      pure (Keyed.ofList es)
  | _, _ => none

/-- One of a number of words, written as a string or as an object with the word as its only key
and null as its value. -/
def word (words : List (String × α)) : Decoder α
  | _, .string s => s.bind fun s => Keyed.get? s words
  | n, .object [(some s, .null)] => if n ≤ 1 then none else Keyed.get? s words
  | _, _ => none

/-! ## Records -/

/-- The fields of a record that are present, and the depth that is left inside it. -/
structure Fields where
  depth : Nat
  present : List (String × Document)

/-- Whether none of the names is the key of two members. -/
def noRepeats (names : List String) (ms : List (String × Document)) : Bool :=
  names.all fun n => (ms.filter fun m => m.1 == n).length ≤ 1

/-- The fields of a record with the given field names. -/
def fields (names : List String) : Decoder Fields
  | n, .object members =>
    if n ≤ 1 then none
    else do
      let ms ← keyed? members
      if noRepeats names ms then pure ⟨n - 1, ms⟩ else none
  | n, .array items =>
    if n ≤ 1 || names.length < items.length then none else some ⟨n - 1, names.zip items⟩
  | _, _ => none

/-- The fields of a record that other fields are mixed with: it is written as an object only, and
the members that it does not have itself must have values. -/
def mixedFields (own shared : List String) : Decoder Fields
  | n, .object members =>
    if n ≤ 1 then none
    else do
      let ms ← keyed? members
      let others := ms.filter fun m => !own.contains m.1
      if noRepeats (own ++ shared) ms && others.all fun m => (m.2.value? (n - 1)).isSome then
        pure ⟨n - 1, ms⟩
      else none
  | _, _ => none

namespace Fields

/-- The document of a field. -/
def find? (f : Fields) (name : String) : Option Document :=
  (f.present.find? fun m => m.1 == name).map (·.2)

/-- A field that must be present. -/
def required (f : Fields) (name : String) (d : Decoder α) : Option α :=
  (f.find? name).bind (d f.depth)

/-- A field with a default. -/
def withDefault (f : Fields) (name : String) (default : α) (d : Decoder α) : Option α :=
  match f.find? name with
  | none => some default
  | some doc => d f.depth doc

end Fields
end Decode
end Json
end DexQuery
