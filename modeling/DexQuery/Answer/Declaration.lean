import DexQuery.Answer.Basic
import DexQuery.Descriptor.Name

/-!
# What a type is declared with

The types above, inside and around a type, the types it depends on, and the annotations of a type,
a method or a field. Types are named by descriptors.
-/

namespace DexQuery
namespace Session

/-- The descriptors of raw names. -/
def descriptors (names : List String) : List String := names.map Name.descriptorOfRaw

/-- The access flags of the first type with a raw name. -/
def accessFlagsOf (rawName : String) (ts : List TypeSummary) : List String :=
  match ts.find? fun t => t.rawName == rawName with
  | some t => t.accessFlags
  | none => []

/-- The types that a type is declared with. -/
def hierarchy (s : Session) (e : Engine) (t : TypeId) : Except Abort Output := do
  let h ← askKnown (.typeNotFound t.text) (e.hierarchy t)
  let types ← ask e.types
  pure (.plain (s.answer [("type_id", .string t.text),
    ("super_class", .optString (h.superClass.map Name.descriptorOfRaw)),
    ("interfaces", .strings (descriptors h.interfaces)),
    ("inner_classes", .strings (descriptors h.innerClasses)),
    ("access_flags", .strings (accessFlagsOf t.raw types)),
    ("generic_parameters", .strings h.genericParameters),
    ("generic_super_class", .optString h.genericSuperClass),
    ("generic_interfaces", .strings h.genericInterfaces)]))

/-- The types that a type depends on, each once and in ascending order. -/
def dependencies (s : Session) (e : Engine) (t : TypeId) : Except Abort Output := do
  let names ← askKnown (.typeNotFound t.text) (e.dependencies t)
  let found := Keyed.keys (Keyed.ofList ((descriptors names).map fun d => (d, ())))
  pure (.plain (s.answer [("type_id", .string t.text), ("total_deps_count", .nat found.length),
    ("dependencies", .strings found)]))

/-- The annotations of an entity. Of parameters only a method has any. -/
def annotationsOf (e : Engine) : EntityId → Except Abort MethodAnnotations
  | .type t => do
    let found ← askKnown (.typeNotFound t.text) (e.typeAnnotations t)
    pure ⟨found, none⟩
  | .method m => askKnown (.methodNotFound m.text) (e.methodAnnotations m)
  | .field f => do
    let found ← askKnown (.fieldNotFound f.text) (e.fieldAnnotations f)
    pure ⟨found, none⟩

/-- The annotations of an entity. -/
def annotations (s : Session) (e : Engine) (target : EntityId) : Except Abort Output := do
  let found ← annotationsOf e target
  pure (.plain (s.unnamedAnswer ([("id", .string target.text), ("kind", .string target.kind),
    ("annotations", Annotation.listToJson found.annotations)] ++
    match found.parameterAnnotations with
    | none => []
    | some ps => [("parameter_annotations", .listOf Annotation.listToJson ps)])))

end Session
end DexQuery
