import DexQuery.Json.Decode

/-!
# Decompile settings

The settings that change what a decompiler prints. Their canonical text has no blanks and names
them in a fixed order; it is part of what a cache key is made of.
-/

namespace DexQuery

/-- The settings an artifact is loaded with. -/
structure Settings where
  deobfuscation : Bool
  inlineMethods : Bool
  showInconsistentCode : Bool
deriving DecidableEq

namespace Settings

/-- The settings that hold where nothing else is said. -/
def default : Settings := ⟨false, true, true⟩

/-- The word for a truth value. -/
def boolText : Bool → String
  | true => "true"
  | false => "false"

/-- The canonical text of settings. -/
def canonical (s : Settings) : String :=
  "\x7b\"deobfuscation\":" ++ boolText s.deobfuscation ++
    ",\"inline_methods\":" ++ boolText s.inlineMethods ++
    ",\"show_inconsistent_code\":" ++ boolText s.showInconsistentCode ++ "\x7d"

/-- Settings as a JSON value. -/
def toJson (s : Settings) : Json :=
  .ofMembers [("deobfuscation", .bool s.deobfuscation), ("inline_methods", .bool s.inlineMethods),
    ("show_inconsistent_code", .bool s.showInconsistentCode)]

/-- Reads settings, of which absent fields keep their defaults. -/
def decode : Json.Decoder Settings := fun n doc => do
  let f ← Json.Decode.fields ["deobfuscation", "inline_methods", "show_inconsistent_code"] n doc
  let deobfuscation ← f.withDefault "deobfuscation" default.deobfuscation Json.Decode.bool
  let inlineMethods ← f.withDefault "inline_methods" default.inlineMethods Json.Decode.bool
  let showInconsistentCode ←
    f.withDefault "show_inconsistent_code" default.showInconsistentCode Json.Decode.bool
  pure ⟨deobfuscation, inlineMethods, showInconsistentCode⟩

/-- The settings that a JSON value is. -/
def ofJson? : Json → Option Settings := Json.Decode.ofValue? decode

end Settings
end DexQuery
