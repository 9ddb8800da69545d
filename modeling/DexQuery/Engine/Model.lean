import DexQuery.Descriptor.Basic
import DexQuery.Source.Member

/-!
# What an engine knows about an artifact

Types are named by raw names; arguments, return types and field types are element types of the
descriptor grammar. References come from the engine as loose records, of which any part may be
missing.
-/

namespace DexQuery

/-- The kinds of types. -/
inductive TypeKind where
  | classType
  | interface
  | enum
  | annotationType
deriving DecidableEq

/-- The word for a kind of types. -/
def TypeKind.word : TypeKind → String
  | .classType => "class"
  | .interface => "interface"
  | .enum => "enum"
  | .annotationType => "annotation"

/-- All kinds of types. -/
def TypeKind.all : List TypeKind := [.classType, .interface, .enum, .annotationType]

/-- A type in the list of all types. -/
structure TypeSummary where
  rawName : String
  kind : TypeKind
  accessFlags : List String

/-- The types that a type is declared with. -/
structure Hierarchy where
  superClass : Option String
  interfaces : List String
  innerClasses : List String
  genericParameters : List String
  genericSuperClass : Option String
  genericInterfaces : List String

/-- A method of a type. -/
structure MethodModel where
  name : String
  arguments : List String
  returnType : String
  accessFlags : List String
  throws : List String
  genericArguments : List String
  genericReturnType : Option String

/-- The identifier of a method of the type `owner`. -/
def MethodModel.id (m : MethodModel) (owner : TypeId) : MethodId :=
  ⟨owner, m.name, m.arguments, m.returnType⟩

/-- Whether a method of the right type is the one with the given identifier. -/
def MethodModel.isCalled (m : MethodModel) (id : MethodId) : Bool :=
  m.name == id.name && m.arguments == id.params && m.returnType == id.ret

/-- A field of a type. -/
structure FieldModel where
  name : String
  type : String
  accessFlags : List String

/-- The identifier of a field of the type `owner`. -/
def FieldModel.id (f : FieldModel) (owner : TypeId) : FieldId := ⟨owner, f.name, f.type⟩

/-- A reference as the engine reports it. -/
structure Reference where
  kind : String
  declaringType : Option String
  name : Option String
  arguments : List String
  returnType : Option String
  fieldType : Option String

/-- A call of something that the artifact does not define. -/
structure UnresolvedCall where
  parentClass : String
  name : Option String
  argumentTypes : List String
  returnType : String

mutual

/-- An annotation with its values by name. -/
inductive Annotation where
  | mk (className visibility : String) (values : List (String × AnnotationValue))

/-- A value in an annotation: a text, a list of values or an annotation. -/
inductive AnnotationValue where
  | mk (type : String) (value : Option String) (values : Option (List AnnotationValue))
    (inner : Option Annotation)

end

/-- The annotations of a method and of its parameters. -/
structure MethodAnnotations where
  annotations : List Annotation
  parameterAnnotations : Option (List (List Annotation))

/-- A packaged resource in the list of all resources. -/
structure ResourceSummary where
  name : String
  type : String
  size : Option Nat

/-- The content of a packaged resource; a binary one has no text. -/
structure ResourceContent where
  name : String
  dataType : String
  text : Option String

/-- How often the decompiler failed and warned. -/
structure Diagnostics where
  errors : Nat
  warnings : Nat

end DexQuery
