import DexQuery.Engine.Export

/-!
# Engines from exports

The engine of an export answers every question from it and never fails. When several types share a
raw name, the last of them is the one that is asked about; among methods and fields of a type the
first that fits.
-/

namespace DexQuery
namespace Export

/-- The type with a raw name. -/
def Artifact.entry? (a : Artifact) (rawName : String) : Option Entry :=
  a.types.reverse.find? fun t => t.summary.rawName == rawName

/-- The method with an identifier. -/
def Artifact.method? (a : Artifact) (id : MethodId) : Option Method :=
  (a.entry? id.owner.raw).bind fun t => t.methods.find? fun m => m.model.isCalled id

/-- The field with an identifier. -/
def Artifact.field? (a : Artifact) (id : FieldId) : Option Field :=
  (a.entry? id.owner.raw).bind fun t =>
    t.fields.find? fun f => f.model.name == id.name && f.model.type == id.type

/-- A resource in the list of all resources; a missing size is that of its text. -/
def Resource.summary (r : Resource) : ResourceSummary :=
  ⟨r.name, r.type, r.size.or (r.text.map String.utf8ByteSize)⟩

/-- The content of a resource; without a data type, one that has a text counts as text. -/
def Resource.content (r : Resource) : ResourceContent :=
  ⟨r.name, r.dataType.getD (if r.text.isSome then "text" else "binary"), r.text⟩

/-- The engine of an export. -/
def Artifact.engine (a : Artifact) : Engine where
  version := a.engineVersion
  inputType := a.inputType
  types := .ok (a.types.map (·.summary))
  hierarchy t := .ok ((a.entry? t.raw).map (·.hierarchy))
  methods t := .ok ((a.entry? t.raw).map fun e => e.methods.map (·.model))
  fields t := .ok ((a.entry? t.raw).map fun e => e.fields.map (·.model))
  unitSource t := .ok ((a.entry? t.raw).bind (·.source))
  unitDisassembly t := .ok ((a.entry? t.raw).bind (·.disassembly))
  memberSpan m := .ok ((a.method? m).map (·.span))
  methodUses m := .ok ((a.method? m).map (·.uses))
  methodUsedBy m := .ok ((a.method? m).map (·.usedBy))
  fieldUsedBy f := .ok ((a.field? f).map (·.usedBy))
  typeUsedBy t := .ok ((a.entry? t.raw).map (·.usedBy))
  overrides m := .ok ((a.method? m).map (·.overrides))
  unresolvedCalls m := .ok ((a.method? m).map (·.unresolved))
  typeAnnotations t := .ok ((a.entry? t.raw).map (·.annotations))
  methodAnnotations m := .ok ((a.method? m).map (·.annotations))
  fieldAnnotations f := .ok ((a.field? f).map (·.annotations))
  dependencies t := .ok ((a.entry? t.raw).map (·.dependencies))
  resources := .ok (a.resources.map Resource.summary)
  resourceContent name :=
    .ok ((a.resources.find? fun r => r.name == name).map Resource.content)
  manifest := .ok a.manifest
  diagnostics := .ok ⟨a.errors, a.warnings⟩

/-- The engine of the export that a file's bytes are. -/
def engineOfBytes (bytes : ByteArray) : Reply Engine :=
  match Artifact.read? bytes with
  | some a => .ok a.engine
  | none => .error (.error ["artifact is not a valid analysis export", "malformed JSON"])

/-- The name that the backend of exports goes by. -/
def backendName : String := "jadx"

/-- Builds engines from export files. -/
def factory : EngineFactory where
  backend := backendName
  create path content _ :=
    match content with
    | .ok bytes => engineOfBytes bytes
    | .error e => .error (.error ["reading " ++ path, e.message])

end Export
end DexQuery
