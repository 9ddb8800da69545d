import DexQuery.Answer.Basic

/-!
# Manifest, resources and diagnostics
-/

namespace DexQuery
namespace Session

/-- The text of the manifest. -/
def manifest (s : Session) (e : Engine) : Except Abort Output := do
  let text ← askKnown .manifestUnavailable e.manifest
  pure (.plain (s.answer [("kind", .string "manifest"), ("text", .string text)]))

/-- All resources, in the order of their names. -/
def listResources (s : Session) (e : Engine) : Except Abort Output := do
  let found ← ask e.resources
  let sorted := found.mergeSort fun a b => decide (a.name ≤ b.name)
  pure (.plain (s.answer [("resources", .listOf ResourceSummary.toJson sorted)]))

/-- The content of a resource. -/
def resourceContent (s : Session) (e : Engine) (name : String) : Except Abort Output := do
  let found ← askKnown (.resourceNotFound name) (e.resourceContent name)
  pure (.plain (s.answer [("name", .string found.name), ("data_type", .string found.dataType),
    ("text", .optString found.text)]))

/-- How often the decompiler failed and warned. -/
def errorReport (s : Session) (e : Engine) : Except Abort Output := do
  let found ← ask e.diagnostics
  pure (.plain (s.answer [("errors_count", .nat found.errors),
    ("warnings_count", .nat found.warnings)]))

end Session
end DexQuery
