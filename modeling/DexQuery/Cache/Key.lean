import DexQuery.Cache.Settings
import DexQuery.Digest.Sha256

/-!
# Cache keys

A cache key is the SHA-256 of the artifact's hash, the engine's version and the canonical settings,
with a bar between them. Two sessions share cached text exactly when they share all three.
-/

namespace DexQuery
namespace CacheKey

/-- The text that a key is the digest of. -/
def material (artifactHash engineVersion : String) (settings : Settings) : String :=
  artifactHash ++ "|" ++ engineVersion ++ "|" ++ settings.canonical

/-- The key of an artifact, an engine version and settings. -/
def of (artifactHash engineVersion : String) (settings : Settings) : String :=
  Sha256.hex (material artifactHash engineVersion settings).toUTF8

end CacheKey
end DexQuery
