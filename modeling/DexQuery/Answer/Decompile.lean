import DexQuery.Answer.UnitText
import DexQuery.Source.Disassembly

/-!
# Decompiled text

The source of a whole type, and the source and disassembly of one method. What cannot be found or
isolated is named by a warning, never left out in silence.
-/

namespace DexQuery
namespace Session

/-- The warning about a type without source. -/
def noSource (t : TypeId) : String := "no decompiled source available for " ++ t.text

/-- The answer about the source of a type. -/
def classAnswer (s : Session) (t : TypeId) (java : Option String) (warnings : List String) :
    Output :=
  .warned (s.answer [("type_id", .string t.text), ("java", .optString java)]) warnings

/-- The source of a type. A type without source must at least be known. -/
def decompileClass (s : Session) (e : Engine) (t : TypeId) (files : Files.Tree) :
    Except Abort Output × Files.Tree :=
  match s.unitText e .source t files with
  | (.error a, files') => (.error a, files')
  | (.ok fetched, files') =>
    match fetched.text with
    | some java => (.ok (s.classAnswer t (some java) fetched.warnings), files')
    | none =>
      match askKnown (.typeNotFound t.text) (e.hierarchy t) with
      | .error a => (.error a, files')
      | .ok _ => (.ok (s.classAnswer t none (fetched.warnings ++ [noSource t])), files')

/-- The source of a member, none if there is none, with warnings. -/
structure SourcePart where
  excerpt : Option Source.Excerpt
  warnings : List String

/-- The source of a member of `owner`, out of the text of its unit. -/
def SourcePart.ofUnit (owner : TypeId) (span : Source.Span) (unit : Fetched) : SourcePart :=
  match unit.text with
  | none => ⟨none, unit.warnings ++ [noSource owner]⟩
  | some text =>
    let found := Source.excerpt text span
    ⟨some found, unit.warnings ++ found.warning.toList⟩

/-- The source of a method. Its unit is not looked at when the engine has the exact text. -/
def methodSource (s : Session) (e : Engine) (m : MethodId) (span : Source.Span)
    (files : Files.Tree) : Except Abort SourcePart × Files.Tree :=
  match span.exactText? with
  | some text => (.ok ⟨some ⟨text, .exact⟩, []⟩, files)
  | none =>
    match s.unitText e .source m.owner files with
    | (.error a, files') => (.error a, files')
    | (.ok unit, files') => (.ok (SourcePart.ofUnit m.owner span unit), files')

/-- The disassembly of a method, out of the text of its unit. -/
def disassemblyOf (m : MethodId) (unit : Fetched) : Fetched :=
  match unit.text with
  | none => ⟨none, unit.warnings ++ ["no disassembly available for " ++ m.owner.text]⟩
  | some text =>
    match Disassembly.method? text m.shortText with
    | some found => ⟨some found, unit.warnings⟩
    | none => ⟨none, unit.warnings ++ [m.shortText ++ " not found in disassembly"]⟩

/-- The answer about the text of a method. -/
def methodAnswer (s : Session) (m : MethodId) (span : Source.Span) (source : SourcePart)
    (disassembly : Fetched) : Output :=
  .warned (s.unnamedAnswer [("id", .string m.text), ("kind", .string "decompiled_method"),
    ("java", .optString (source.excerpt.map fun x => x.text)),
    ("smali", .optString disassembly.text),
    ("strategy", .optString (source.excerpt.map fun x => x.strategy.word)),
    ("locations", .ofMembers (match span.definitionOffset with
      | none => []
      | some n => [("definition_offset", .nat n)]))])
    (source.warnings ++ disassembly.warnings)

/-- The source and the disassembly of a method. -/
def decompileMethod (s : Session) (e : Engine) (m : MethodId) (files : Files.Tree) :
    Except Abort Output × Files.Tree :=
  match askKnown (.methodNotFound m.text) (e.memberSpan m) with
  | .error a => (.error a, files)
  | .ok span =>
    match s.methodSource e m span files with
    | (.error a, files₁) => (.error a, files₁)
    | (.ok source, files₁) =>
      match s.unitText e .disasm m.owner files₁ with
      | (.error a, files₂) => (.error a, files₂)
      | (.ok unit, files₂) => (.ok (s.methodAnswer m span source (disassemblyOf m unit)), files₂)

end Session
end DexQuery
