import DexQuery.Answer.Basic

/-!
# Lists of types, methods and fields

Every entry carries the descriptor of what it is about. Types are listed in the order of their
descriptors, methods and fields in the order of the engine. An entry whose descriptor has an alias
carries that too; aliases change nothing else.
-/

namespace DexQuery
namespace Session

/-- The member that shows the alias of a descriptor, if it has one. -/
def aliasMember (labels : List (String × Label)) (id : String) : List (String × Json) :=
  match Keyed.get? id labels with
  | none => []
  | some l => [("alias", .string l.name)]

/-- The entry of a type. -/
def typeEntry (labels : List (String × Label)) (t : TypeSummary) : Json :=
  let id := TypeId.mk t.rawName
  .ofMembers ([("id", .string id.text), ("kind", .string t.kind.word),
    ("name", .string id.simpleName), ("full_name", .string id.dotted),
    ("package", .string id.package), ("access_flags", .strings t.accessFlags)] ++
    aliasMember labels id.text)

/-- Types in the order of their descriptors. -/
def sortedTypes (ts : List TypeSummary) : List TypeSummary :=
  ts.mergeSort fun a b => decide ((TypeId.mk a.rawName).text ≤ (TypeId.mk b.rawName).text)

/-- All types. -/
def listTypes (s : Session) (e : Engine) : Except Abort Output := do
  let labels ← s.labels
  let types ← ask e.types
  pure (.plain (s.answer [("types", .listOf (typeEntry labels) (sortedTypes types))]))

/-- The entry of a method in the short list. -/
def methodEntry (labels : List (String × Label)) (owner : TypeId) (m : MethodModel) : Json :=
  let id := (m.id owner).text
  .ofMembers ([("id", .string id), ("name", .string m.name),
    ("access_flags", .strings m.accessFlags)] ++ aliasMember labels id)

/-- The methods of a type. -/
def listMethods (s : Session) (e : Engine) (t : TypeId) : Except Abort Output := do
  let labels ← s.labels
  let methods ← askKnown (.typeNotFound t.text) (e.methods t)
  pure (.plain (s.answer [("type_id", .string t.text),
    ("methods", .listOf (methodEntry labels t) methods)]))

/-- The entry of a method in the long list. -/
def methodDetail (owner : TypeId) (m : MethodModel) : Json :=
  let id := m.id owner
  .ofMembers [("id", .string id.text), ("name", .string m.name),
    ("access_flags", .strings m.accessFlags), ("arguments", .strings m.arguments),
    ("return_type", .string m.returnType), ("is_constructor", .bool id.isConstructor),
    ("is_class_init", .bool id.isClassInit), ("throws", .strings m.throws),
    ("generic_arguments", .strings m.genericArguments),
    ("generic_return_type", .optString m.genericReturnType)]

/-- The methods of a type with all their details. -/
def listMethodsDetail (s : Session) (e : Engine) (t : TypeId) : Except Abort Output := do
  let methods ← askKnown (.typeNotFound t.text) (e.methods t)
  pure (.plain (s.answer [("type_id", .string t.text),
    ("methods", .listOf (methodDetail t) methods)]))

/-- The entry of a field. -/
def fieldEntry (labels : List (String × Label)) (owner : TypeId) (f : FieldModel) : Json :=
  let id := (f.id owner).text
  .ofMembers ([("id", .string id), ("name", .string f.name), ("type", .string f.type),
    ("access_flags", .strings f.accessFlags)] ++ aliasMember labels id)

/-- The fields of a type. -/
def listFields (s : Session) (e : Engine) (t : TypeId) : Except Abort Output := do
  let labels ← s.labels
  let fields ← askKnown (.typeNotFound t.text) (e.fields t)
  pure (.plain (s.answer [("type_id", .string t.text),
    ("fields", .listOf (fieldEntry labels t) fields)]))

end Session
end DexQuery
