import DexQuery.Engine.Model
import DexQuery.Json.Basic

/-!
# Engine records as JSON values
-/

namespace DexQuery

/-- A natural number that may be absent as a value. -/
def Json.optNat : Option Nat → Json
  | none => .null
  | some n => .nat n

/-- A list of things as a value. -/
def Json.listOf {α : Type} (f : α → Json) (xs : List α) : Json := .array (xs.map f)

/-- A type in the list of all types as a value. -/
def TypeSummary.toJson (t : TypeSummary) : Json :=
  .ofMembers [("raw_name", .string t.rawName), ("kind", .string t.kind.word),
    ("access_flags", .strings t.accessFlags)]

/-- The types that a type is declared with as a value. -/
def Hierarchy.toJson (h : Hierarchy) : Json :=
  .ofMembers [("super_class", .optString h.superClass), ("interfaces", .strings h.interfaces),
    ("inner_classes", .strings h.innerClasses),
    ("generic_parameters", .strings h.genericParameters),
    ("generic_super_class", .optString h.genericSuperClass),
    ("generic_interfaces", .strings h.genericInterfaces)]

/-- A method as a value. -/
def MethodModel.toJson (m : MethodModel) : Json :=
  .ofMembers [("name", .string m.name), ("arguments", .strings m.arguments),
    ("return_type", .string m.returnType), ("access_flags", .strings m.accessFlags),
    ("throws", .strings m.throws), ("generic_arguments", .strings m.genericArguments),
    ("generic_return_type", .optString m.genericReturnType)]

/-- A field as a value. -/
def FieldModel.toJson (f : FieldModel) : Json :=
  .ofMembers [("name", .string f.name), ("type", .string f.type),
    ("access_flags", .strings f.accessFlags)]

/-- A reference as a value. -/
def Reference.toJson (r : Reference) : Json :=
  .ofMembers [("kind", .string r.kind), ("declaring_type", .optString r.declaringType),
    ("name", .optString r.name), ("arguments", .strings r.arguments),
    ("return_type", .optString r.returnType), ("field_type", .optString r.fieldType)]

/-- A call of something undefined as a value. -/
def UnresolvedCall.toJson (c : UnresolvedCall) : Json :=
  .ofMembers [("parent_class", .string c.parentClass), ("name", .optString c.name),
    ("arg_types", .strings c.argumentTypes), ("return_type", .string c.returnType)]

/-- The place of a member in its unit as a value. -/
def Source.Span.toJson (s : Source.Span) : Json :=
  .ofMembers [("exact", .optString s.exact), ("definition_offset", .optNat s.definitionOffset)]

mutual

/-- An annotation as a value. -/
def Annotation.toJson : Annotation → Json
  | .mk className visibility values =>
    .ofMembers [("annotation_class", .string className), ("visibility", .string visibility),
      ("values", .ofMembers (AnnotationValue.membersToJson values))]

/-- The values of an annotation as the members of an object. -/
def AnnotationValue.membersToJson : List (String × AnnotationValue) → List (String × Json)
  | [] => []
  | (k, v) :: r => (k, AnnotationValue.toJson v) :: AnnotationValue.membersToJson r

/-- A value in an annotation as a value; absent parts are left out. -/
def AnnotationValue.toJson : AnnotationValue → Json
  | .mk type value values inner =>
    .ofMembers (("type", .string type) ::
      ((match value with
        | none => []
        | some s => [("value", .string s)]) ++
      (match values with
        | none => []
        | some vs => [("values", .array (AnnotationValue.itemsToJson vs))]) ++
      (match inner with
        | none => []
        | some a => [("annotation", Annotation.toJson a)])))

/-- A list of values in an annotation as a list of values. -/
def AnnotationValue.itemsToJson : List AnnotationValue → List Json
  | [] => []
  | v :: r => AnnotationValue.toJson v :: AnnotationValue.itemsToJson r

end

/-- Annotations as a value. -/
def Annotation.listToJson (as : List Annotation) : Json := .listOf Annotation.toJson as

/-- The annotations of a method and of its parameters as a value. -/
def MethodAnnotations.toJson (m : MethodAnnotations) : Json :=
  .ofMembers [("annotations", Annotation.listToJson m.annotations),
    ("parameter_annotations", match m.parameterAnnotations with
      | none => .null
      | some ps => .listOf Annotation.listToJson ps)]

/-- A resource in the list of all resources as a value. -/
def ResourceSummary.toJson (r : ResourceSummary) : Json :=
  .ofMembers [("name", .string r.name), ("type", .string r.type), ("size", .optNat r.size)]

/-- The content of a resource as a value. -/
def ResourceContent.toJson (r : ResourceContent) : Json :=
  .ofMembers [("name", .string r.name), ("data_type", .string r.dataType),
    ("text", .optString r.text)]

/-- Failure and warning counts as a value. -/
def Diagnostics.toJson (d : Diagnostics) : Json :=
  .ofMembers [("errors_count", .nat d.errors), ("warnings_count", .nat d.warnings)]

end DexQuery
