/-!
# Identifiers of types, methods and fields

Every query takes and returns identifiers written in the descriptor grammar of the class file:

| entity | text |
| --- | --- |
| type | `Lcom/test/Child;` |
| method | `Lcom/test/Child;->call(I)Ljava/lang/String;` |
| field | `Lcom/test/Child;->TAG:Ljava/lang/String;` |

The name between `L` and `;` is the raw name; its dotted form has `.` for `/`. An identifier made
from an engine's answer need not be well formed, so the types here hold any texts; the readers in
`DexQuery.Descriptor.Reader` say which texts are accepted.
-/

namespace DexQuery

/-- A type, by its raw name. -/
structure TypeId where
  raw : String
deriving DecidableEq

/-- A method: the type that declares it, its name, its parameter types and its return type. -/
structure MethodId where
  owner : TypeId
  name : String
  params : List String
  ret : String
deriving DecidableEq

/-- A field: the type that declares it, its name and its type. -/
structure FieldId where
  owner : TypeId
  name : String
  type : String
deriving DecidableEq

/-- What an alias or an annotation can be attached to. -/
inductive EntityId where
  | type (t : TypeId)
  | method (m : MethodId)
  | field (f : FieldId)
deriving DecidableEq

namespace TypeId

/-- The descriptor of the type. -/
def text (t : TypeId) : String := "L" ++ t.raw ++ ";"

/-- The characters after the last `/` of a raw name. -/
def simpleChars (raw : List Char) : List Char := (raw.reverse.takeWhile (· ≠ '/')).reverse

/-- The characters before the last `/` of a raw name, none if it holds no `/`. -/
def packageChars (raw : List Char) : List Char :=
  ((raw.reverse.dropWhile (· ≠ '/')).drop 1).reverse

/-- `cs` with `.` for every `/`. -/
def dottedChars (cs : List Char) : List Char := cs.map fun c => if c = '/' then '.' else c

/-- The raw name with `.` for `/`. -/
def dotted (t : TypeId) : String := String.ofList (dottedChars t.raw.toList)

/-- The dotted package, empty for a type in no package. -/
def package (t : TypeId) : String := String.ofList (dottedChars (packageChars t.raw.toList))

/-- The name inside the package, with any nesting in it. -/
def simpleName (t : TypeId) : String := String.ofList (simpleChars t.raw.toList)

end TypeId

namespace MethodId

/-- Name, parameters and return type, as a disassembly prints them. -/
def shortText (m : MethodId) : String := m.name ++ "(" ++ String.join m.params ++ ")" ++ m.ret

/-- The descriptor of the method. -/
def text (m : MethodId) : String := m.owner.text ++ "->" ++ m.shortText

/-- Whether the method is a constructor. -/
def isConstructor (m : MethodId) : Bool := m.name == "<init>"

/-- Whether the method initialises its class. -/
def isClassInit (m : MethodId) : Bool := m.name == "<clinit>"

end MethodId

/-- The descriptor of the field. -/
def FieldId.text (f : FieldId) : String := f.owner.text ++ "->" ++ f.name ++ ":" ++ f.type

namespace EntityId

/-- The descriptor of the entity. -/
def text : EntityId → String
  | .type t => t.text
  | .method m => m.text
  | .field f => f.text

/-- The word that names the kind of the entity. -/
def kind : EntityId → String
  | .type _ => "type"
  | .method _ => "method"
  | .field _ => "field"

end EntityId
end DexQuery
