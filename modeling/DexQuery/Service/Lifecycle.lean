import DexQuery.Service.Basic

/-!
# Calls about sessions

Loading an artifact, closing a session and listing the open ones are calls of their own, answered
by envelopes like all others.
-/

namespace DexQuery
namespace Service

/-- The name of the call that loads an artifact. -/
def loadName : String := "load_artifact"

/-- The name of the call that closes a session. -/
def closeName : String := "close_session"

/-- The name of the call that lists sessions. -/
def listName : String := "list_sessions"

/-- The text of a member that must be one. -/
def requiredText (args : Json) (name : String) : Except Failure String :=
  match (args.member? name).bind Json.asString? with
  | some s => .ok s
  | none => .error (.missingArgument name)

/-- The settings in the arguments of a load; absent and null are the defaults. -/
def settingsOf (args : Json) : Except Failure Settings :=
  match args.member? "settings" with
  | none => .ok Settings.default
  | some .null => .ok Settings.default
  | some j =>
    match Settings.ofJson? j with
    | some s => .ok s
    | none => .error (.invalidParams "settings: malformed JSON")

/-- What a caller learns about a session that has been loaded. -/
def loadResult (s : Session) : Json :=
  .ofMembers [("session_id", .string s.id), ("artifact_hash", .string s.artifactHash),
    ("input_type", .string s.inputType), ("class_count", .nat s.classCount),
    ("cache_key", .string s.cacheKey), ("provenance", s.provenance)]

/-- Loads an artifact. -/
def loadArtifact (v : Service) (args : Json) : Envelope × Service :=
  match requiredText args "path" with
  | .error e => (.failure loadName args e, v)
  | .ok path =>
    match settingsOf args with
    | .error e => (.failure loadName args e, v)
    | .ok settings =>
      match v.load path settings with
      | (.error e, v') => (.failure loadName args e, v')
      | (.ok s, v') => (.success loadName args (.plain (loadResult s)), v')

/-- Closes a session. Closing it twice is no failure. -/
def closeSession (v : Service) (args : Json) : Envelope × Service :=
  match requiredText args "session_id" with
  | .error e => (.failure closeName args e, v)
  | .ok id =>
    let (closed, v') := v.close id
    (.success closeName args (.plain (.ofMembers [("session_id", .string id),
      ("closed", .bool closed)])), v')

/-- Lists the open sessions. -/
def listSessions (v : Service) (args : Json) : Envelope :=
  let open' := v.openSessions
  .success listName args (.plain (.ofMembers [("count", .nat open'.length),
    ("sessions", .listOf Session.info open')]))

end Service
end DexQuery
