import DexQuery.Alias.Store
import DexQuery.Cache.Basic
import DexQuery.Engine.Basic
import DexQuery.Json.Basic
import DexQuery.Text.Timestamp

/-!
# Sessions

A session is an artifact that has been loaded, with the engine that answers about it and the
aliases given to its entities. A session that has been closed keeps what it was loaded from, but has
no engine and no aliases any more.
-/

namespace DexQuery

/-- The stages of a session's life. -/
inductive Status where
  | created
  | active
  | closed
deriving DecidableEq

/-- The word for a stage. -/
def Status.word : Status → String
  | .created => "created"
  | .active => "active"
  | .closed => "closed"

/-- A session. Points in time are nanoseconds since 1970. -/
structure Session where
  id : String
  artifactPath : String
  artifactHash : String
  inputType : String
  classCount : Nat
  settings : Settings
  backend : String
  engineVersion : String
  cacheKey : String
  cache : Cache
  created : Nat
  lastAccessed : Nat
  status : Status
  aliases : AliasStore
  engine : Option Engine

namespace Session

/-- Where the answers of a session come from. -/
def provenance (s : Session) : Json :=
  .ofMembers [("backend", .string s.backend), ("backend_version", .string s.engineVersion),
    ("settings", s.settings.toJson)]

/-- What is known about a session itself. -/
def info (s : Session) : Json :=
  .ofMembers [("session_id", .string s.id), ("artifact_path", .string s.artifactPath),
    ("artifact_hash", .string s.artifactHash), ("input_type", .string s.inputType),
    ("class_count", .nat s.classCount), ("cache_key", .string s.cacheKey),
    ("status", .string s.status.word), ("created_at", .string (Timestamp.text s.created)),
    ("last_accessed", .string (Timestamp.text s.lastAccessed)), ("provenance", s.provenance)]

/-- The session with an access at the time `now`. -/
def touch (s : Session) (now : Nat) : Session := { s with lastAccessed := now }

/-- The session after its end: its engine has stopped and its aliases are released. -/
def close (s : Session) : Session :=
  { s with status := .closed, engine := none, aliases := s.aliases.release }

end Session
end DexQuery
