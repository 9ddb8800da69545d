import DexQuery.Descriptor.Basic
import DexQuery.Descriptor.TypeList

/-!
# Reading identifiers

`TypeId.read`, `MethodId.read` and `FieldId.read` accept exactly the texts that the printers of
`DexQuery.Descriptor.Basic` produce from well-formed identifiers. A text that is refused is
reported together with the reason; inside a member descriptor a bad owner is reported alone.
-/

namespace DexQuery

/-- A text that is no descriptor, and why. -/
structure Malformed where
  input : String
  reason : Malformation
deriving DecidableEq

/-- The characters of a raw name, out of the characters of a type descriptor. -/
def TypeId.rawChars (cs : List Char) : Except Malformation (List Char) :=
  match cs with
  | 'L' :: r =>
    if r.getLast? = some ';' then
      let raw := r.dropLast
      if raw = [] then .error .emptyName
      else if ';' ∈ raw ∨ (Text.splitArrow? raw).isSome then .error .strayCharacter
      else .ok raw
    else .error .missingTerminator
  | _ => .error .missingPrefix

/-- Reads a type descriptor. -/
def TypeId.read (s : String) : Except Malformed TypeId :=
  match TypeId.rawChars s.toList with
  | .ok raw => .ok ⟨String.ofList raw⟩
  | .error e => .error ⟨s, e⟩

/-- Splits a member descriptor at its first arrow and reads the owner before it. -/
def readOwner (s : String) : Except Malformed (TypeId × List Char) :=
  match Text.splitArrow? s.toList with
  | none => .error ⟨s, .missingArrow⟩
  | some (owner, member) =>
    match TypeId.read (String.ofList owner) with
    | .ok t => .ok (t, member)
    | .error e => .error e

/-- The name, the parameter types and the return type of a method, out of the characters after
the arrow. -/
def MethodId.signature (member : List Char) :
    Except Malformation (List Char × List (List Char) × List Char) :=
  match Text.splitFirst? '(' member with
  | none => .error .missingParenthesis
  | some (name, tail) =>
    if ')' ∈ name then .error .missingParenthesis
    else match Text.splitFirst? ')' tail with
      | none => .error .missingParenthesis
      | some (params, ret) =>
        if name = [] then .error .emptyName
        else match TypeList.elements params with
          | .error e => .error e
          | .ok ts =>
            if ['V'] ∈ ts then .error .voidParameter
            else match TypeList.elements ret with
              | .error e => .error e
              | .ok [_] => .ok (name, ts, ret)
              | .ok _ => .error .missingReturnType

/-- Reads a method descriptor. -/
def MethodId.read (s : String) : Except Malformed MethodId :=
  match readOwner s with
  | .error e => .error e
  | .ok (owner, member) =>
    match MethodId.signature member with
    | .ok (name, params, ret) =>
      .ok ⟨owner, String.ofList name, params.map String.ofList, String.ofList ret⟩
    | .error e => .error ⟨s, e⟩

/-- The name and the type of a field, out of the characters after the arrow. -/
def FieldId.signature (member : List Char) : Except Malformation (List Char × List Char) :=
  match Text.splitFirst? ':' member with
  | none => .error .missingColon
  | some (name, type) =>
    if name = [] then .error .emptyName
    else match TypeList.elements type with
      | .error e => .error e
      | .ok [t] => if t = ['V'] then .error .invalidFieldType else .ok (name, type)
      | .ok _ => .error .invalidFieldType

/-- Reads a field descriptor. -/
def FieldId.read (s : String) : Except Malformed FieldId :=
  match readOwner s with
  | .error e => .error e
  | .ok (owner, member) =>
    match FieldId.signature member with
    | .ok (name, type) => .ok ⟨owner, String.ofList name, String.ofList type⟩
    | .error e => .error ⟨s, e⟩

/-- Reads whichever descriptor `s` has the shape of: without an arrow a type, with a parenthesis
after the first arrow a method, else a field. -/
def EntityId.read (s : String) : Except Malformed EntityId :=
  match Text.splitArrow? s.toList with
  | none => (TypeId.read s).map .type
  | some (_, member) =>
    if '(' ∈ member then (MethodId.read s).map .method else (FieldId.read s).map .field

end DexQuery
