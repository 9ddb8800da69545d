import DexQuery.Cache.Settings
import DexQuery.Engine.Model
import DexQuery.Failure
import DexQuery.Files.Tree

/-!
# Engines

An engine answers questions about one loaded artifact. What it does not know it answers with
`none`; when it fails while answering it gives a fault: an error with its causes, or a panic. An
engine is any function of the question and what it is about, so nothing here depends on where its
answers come from.
-/

namespace DexQuery

/-- An engine failing while it answers. The causes of an error stand outermost first. -/
inductive Fault where
  | error (causes : List String)
  | panic (message : String)
deriving DecidableEq

/-- The wording of the causes of an error, from the outermost to the root. -/
def Fault.chain (causes : List String) : String := ": ".intercalate causes

/-- An engine's answer. -/
abbrev Reply (α : Type) := Except Fault α

/-- An engine with an artifact loaded. -/
structure Engine where
  version : String
  inputType : String
  types : Reply (List TypeSummary)
  hierarchy : TypeId → Reply (Option Hierarchy)
  methods : TypeId → Reply (Option (List MethodModel))
  fields : TypeId → Reply (Option (List FieldModel))
  /-- The full source text of the unit that declares a type. -/
  unitSource : TypeId → Reply (Option String)
  /-- The full disassembly text of the unit that declares a type. -/
  unitDisassembly : TypeId → Reply (Option String)
  /-- Where a method lies in the source text of its unit. -/
  memberSpan : MethodId → Reply (Option Source.Span)
  methodUses : MethodId → Reply (Option (List Reference))
  methodUsedBy : MethodId → Reply (Option (List Reference))
  fieldUsedBy : FieldId → Reply (Option (List Reference))
  typeUsedBy : TypeId → Reply (Option (List Reference))
  /-- The methods that a method overrides or implements, nearest first. -/
  overrides : MethodId → Reply (Option (List Reference))
  unresolvedCalls : MethodId → Reply (Option (List UnresolvedCall))
  typeAnnotations : TypeId → Reply (Option (List Annotation))
  methodAnnotations : MethodId → Reply (Option MethodAnnotations)
  fieldAnnotations : FieldId → Reply (Option (List Annotation))
  /-- The raw names of the types that a type depends on. -/
  dependencies : TypeId → Reply (Option (List String))
  resources : Reply (List ResourceSummary)
  resourceContent : String → Reply (Option ResourceContent)
  /-- The text of the manifest, for inputs that have one. -/
  manifest : Reply (Option String)
  diagnostics : Reply Diagnostics

/-- Builds engines for artifacts. Building one may read the artifact's file, of which `create` is
given the bytes or why there are none. -/
structure EngineFactory where
  backend : String
  create : String → Except Files.IoError ByteArray → Settings → Reply Engine

end DexQuery
