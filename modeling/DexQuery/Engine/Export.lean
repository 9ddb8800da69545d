import DexQuery.Engine.Basic
import DexQuery.Json.Reader

/-!
# Analysis exports

An analysis export is a JSON text that holds everything an engine is asked for. Most fields may be
absent; names and types may not. The export of a type, a method or a field holds the fields of the
record that the engine answers with side by side with its own.
-/

namespace DexQuery
namespace Export

open Json

/-- A method with everything that is known about it. -/
structure Method where
  model : MethodModel
  span : Source.Span
  uses : List Reference
  usedBy : List Reference
  overrides : List Reference
  unresolved : List UnresolvedCall
  annotations : MethodAnnotations

/-- A field with everything that is known about it. -/
structure Field where
  model : FieldModel
  usedBy : List Reference
  annotations : List Annotation

/-- A type with everything that is known about it. -/
structure Entry where
  summary : TypeSummary
  hierarchy : Hierarchy
  source : Option String
  disassembly : Option String
  methods : List Method
  fields : List Field
  usedBy : List Reference
  dependencies : List String
  annotations : List Annotation

/-- A packaged resource. -/
structure Resource where
  name : String
  type : String
  dataType : Option String
  size : Option Nat
  text : Option String

/-- An export. -/
structure Artifact where
  engineVersion : String
  inputType : String
  types : List Entry
  resources : List Resource
  manifest : Option String
  errors : Nat
  warnings : Nat

/-- A list of texts. -/
def texts : Decoder (List String) := Decode.list Decode.text

/-- A text that may be null. -/
def optText : Decoder (Option String) := Decode.optional Decode.text

/-- Reads a reference; every part of it has a default. -/
def reference : Decoder Reference := fun n doc => do
  let f ← Decode.fields
    ["kind", "declaring_type", "name", "arguments", "return_type", "field_type"] n doc
  let kind ← f.withDefault "kind" "" Decode.text
  let declaringType ← f.withDefault "declaring_type" none optText
  let name ← f.withDefault "name" none optText
  let arguments ← f.withDefault "arguments" [] texts
  let returnType ← f.withDefault "return_type" none optText
  let fieldType ← f.withDefault "field_type" none optText
  pure ⟨kind, declaringType, name, arguments, returnType, fieldType⟩

/-- A list of references. -/
def references : Decoder (List Reference) := Decode.list reference

/-- Reads a call of something undefined. -/
def unresolvedCall : Decoder UnresolvedCall := fun n doc => do
  let f ← Decode.fields ["parent_class", "name", "arg_types", "return_type"] n doc
  let parentClass ← f.required "parent_class" Decode.text
  let name ← f.withDefault "name" none optText
  let argumentTypes ← f.withDefault "arg_types" [] texts
  let returnType ← f.required "return_type" Decode.text
  pure ⟨parentClass, name, argumentTypes, returnType⟩

/-- Reads a value in an annotation, by reading the annotation in it with `read`. A value
may hold values to the depth `n`. -/
def annotationValue (read : Decoder Annotation) : Nat → Decoder AnnotationValue
  | 0 => fun _ _ => none
  | k + 1 => fun n doc => do
    let f ← Decode.fields ["type", "value", "values", "annotation"] n doc
    let type ← f.required "type" Decode.text
    let value ← f.withDefault "value" none optText
    let values ← f.withDefault "values" none
      (Decode.optional (Decode.list (annotationValue read k)))
    let inner ← f.withDefault "annotation" none (Decode.optional read)
    pure (.mk type value values inner)

/-- Reads an annotation that holds annotations to the depth `k`. -/
def annotationTo : Nat → Decoder Annotation
  | 0 => fun _ _ => none
  | k + 1 => fun n doc => do
    let f ← Decode.fields ["annotation_class", "visibility", "values"] n doc
    let className ← f.required "annotation_class" Decode.text
    let visibility ← f.required "visibility" Decode.text
    let values ← f.withDefault "values" []
      (Decode.table (annotationValue (annotationTo k) depthLimit))
    pure (.mk className visibility values)

/-- Reads an annotation. No annotation nests deeper than a document may. -/
def anyAnnotation : Decoder Annotation := annotationTo depthLimit

/-- A list of annotations. -/
def annotations : Decoder (List Annotation) := Decode.list anyAnnotation

/-- The fields that a method's own record has in an export. -/
def methodModelFields : List String :=
  ["name", "arguments", "return_type", "access_flags", "throws", "generic_arguments",
    "generic_return_type"]

/-- Reads a method. -/
def method : Decoder Method := fun n doc => do
  let f ← Decode.mixedFields ["source", "definition_offset", "uses", "used_by", "overrides",
    "unresolved", "annotations", "parameter_annotations"] methodModelFields n doc
  let source ← f.withDefault "source" none optText
  let definitionOffset ← f.withDefault "definition_offset" none (Decode.optional Decode.nat)
  let uses ← f.withDefault "uses" [] references
  let usedBy ← f.withDefault "used_by" [] references
  let overrides ← f.withDefault "overrides" [] references
  let unresolved ← f.withDefault "unresolved" [] (Decode.list unresolvedCall)
  let own ← f.withDefault "annotations" [] annotations
  let parameters ←
    f.withDefault "parameter_annotations" none (Decode.optional (Decode.list annotations))
  let name ← f.required "name" Decode.text
  let arguments ← f.withDefault "arguments" [] texts
  let returnType ← f.required "return_type" Decode.text
  let accessFlags ← f.withDefault "access_flags" [] texts
  let throws ← f.withDefault "throws" [] texts
  let genericArguments ← f.withDefault "generic_arguments" [] texts
  let genericReturnType ← f.withDefault "generic_return_type" none optText
  pure ⟨⟨name, arguments, returnType, accessFlags, throws, genericArguments, genericReturnType⟩,
    ⟨source, definitionOffset⟩, uses, usedBy, overrides, unresolved, ⟨own, parameters⟩⟩

/-- Reads a field. -/
def field : Decoder Field := fun n doc => do
  let f ← Decode.mixedFields ["used_by", "annotations"] ["name", "type", "access_flags"] n doc
  let usedBy ← f.withDefault "used_by" [] references
  let own ← f.withDefault "annotations" [] annotations
  let name ← f.required "name" Decode.text
  let type ← f.required "type" Decode.text
  let accessFlags ← f.withDefault "access_flags" [] texts
  pure ⟨⟨name, type, accessFlags⟩, usedBy, own⟩

/-- Reads a type. -/
def entry : Decoder Entry := fun n doc => do
  let f ← Decode.mixedFields ["raw_name", "kind", "access_flags", "source", "smali", "methods",
      "fields", "used_by", "dependencies", "annotations"]
    ["super_class", "interfaces", "inner_classes", "generic_parameters", "generic_super_class",
      "generic_interfaces"] n doc
  let rawName ← f.required "raw_name" Decode.text
  let kind ← f.withDefault "kind" .classType
    (Decode.word (TypeKind.all.map fun k => (k.word, k)))
  let accessFlags ← f.withDefault "access_flags" [] texts
  let source ← f.withDefault "source" none optText
  let disassembly ← f.withDefault "smali" none optText
  let methods ← f.withDefault "methods" [] (Decode.list method)
  let fields ← f.withDefault "fields" [] (Decode.list field)
  let usedBy ← f.withDefault "used_by" [] references
  let dependencies ← f.withDefault "dependencies" [] texts
  let own ← f.withDefault "annotations" [] annotations
  let superClass ← f.withDefault "super_class" none optText
  let interfaces ← f.withDefault "interfaces" [] texts
  let innerClasses ← f.withDefault "inner_classes" [] texts
  let genericParameters ← f.withDefault "generic_parameters" [] texts
  let genericSuperClass ← f.withDefault "generic_super_class" none optText
  let genericInterfaces ← f.withDefault "generic_interfaces" [] texts
  pure ⟨⟨rawName, kind, accessFlags⟩,
    ⟨superClass, interfaces, innerClasses, genericParameters, genericSuperClass,
      genericInterfaces⟩,
    source, disassembly, methods, fields, usedBy, dependencies, own⟩

/-- Reads a packaged resource. -/
def resource : Decoder Resource := fun n doc => do
  let f ← Decode.fields ["name", "type", "data_type", "size", "text"] n doc
  let name ← f.required "name" Decode.text
  let type ← f.required "type" Decode.text
  let dataType ← f.withDefault "data_type" none optText
  let size ← f.withDefault "size" none (Decode.optional Decode.nat)
  let text ← f.withDefault "text" none optText
  pure ⟨name, type, dataType, size, text⟩

/-- Reads an export. -/
def artifact : Decoder Artifact := fun n doc => do
  let f ← Decode.fields ["engine_version", "input_type", "types", "resources", "manifest",
    "errors_count", "warnings_count"] n doc
  let engineVersion ← f.required "engine_version" Decode.text
  let inputType ← f.withDefault "input_type" "dex" Decode.text
  let types ← f.withDefault "types" [] (Decode.list entry)
  let resources ← f.withDefault "resources" [] (Decode.list resource)
  let manifest ← f.withDefault "manifest" none optText
  let errors ← f.withDefault "errors_count" 0 Decode.nat
  let warnings ← f.withDefault "warnings_count" 0 Decode.nat
  pure ⟨engineVersion, inputType, types, resources, manifest, errors, warnings⟩

/-- The export that a file's bytes are. -/
def Artifact.read? (bytes : ByteArray) : Option Artifact :=
  (Document.read? bytes.toList).bind (artifact depthLimit)

end Export
end DexQuery
