import DexQuery.Json.Reader
import DexQuery.Operation.Schema
import DexQuery.Service.Lifecycle

/-!
# Requests over HTTP

A request is a method, a path and a body. The pieces of the path between slashes choose what is
called; empty ones do not count. The body is the JSON text of the arguments, and an empty one
stands for no arguments. Every answer is an envelope, and its status follows from the class of the
error.

| request | call |
| --- | --- |
| `GET /v1/health` | how the service is |
| `GET /v1/methods` | the catalogue of operations |
| `GET /v1/sessions` | list the open sessions |
| `POST /v1/load` | load an artifact |
| `POST /v1/call` | call a method by name |
| `POST /v1/sessions/ID/close` | close a session |
| `POST /v1/sessions/ID/ROUTE` | call the operation with that route |
-/

namespace DexQuery

/-- The status of an envelope: 200 when it is ok, else by the class of its error. -/
def Envelope.status (e : Envelope) : Nat :=
  if e.ok then 200
  else match e.kind with
    | some .notFound => 404
    | some .invalidInput => 400
    | some .loadFailed => 422
    | some .engineFailure => 502
    | some .internal => 500
    | none => 500

namespace Rest

/-- The object without members. -/
def noArgs : Json := .object []

/-- The pieces of a path between slashes that are not empty. -/
def segments (path : String) : List String := (Text.split '/' path).filter fun s => s != ""

/-- Whether a byte is a blank of ASCII. -/
def isBlankByte (b : UInt8) : Bool := b == 0x20 || b == 0x09 || b == 0x0A || b == 0x0C || b == 0x0D

/-- The arguments in a body. -/
def readBody (body : ByteArray) : Except Failure Json :=
  let bytes := body.toList
  if bytes.all isBlankByte then .ok noArgs
  else match Json.read? bytes with
    | some j => .ok j
    | none => .error (.invalidParams "body is not valid JSON: malformed JSON")

/-- The answer to a request that leads nowhere. -/
def noRoute (method path : String) : Envelope :=
  ⟨false, path, noArgs, none, some ("NOT_FOUND: no route for " ++ method ++ " " ++ path), [], false,
    some .notFound⟩

/-- How the service is. -/
def health (v : Service) : Envelope :=
  .success "health" noArgs (.plain (.ofMembers [("status", .string "ok"),
    ("backend", .string v.setup.factory.backend), ("sessions", .nat v.openSessions.length),
    ("cache_dir", .string v.setup.cache.rootText)]))

/-- Calls a method that is named in the body. -/
def callNamed (v : Service) (args : Json) : Envelope × Service :=
  match Service.requiredText args "method" with
  | .error e => (.failure "call" args e, v)
  | .ok name =>
    match Request.resolve name with
    | .error e => (.failure name args e, v)
    | .ok _ =>
      match Service.requiredText args "session_id" with
      | .error e => (.failure name args e, v)
      | .ok id => v.dispatch id name ((args.member? "args").getD noArgs)

/-- Calls the operation with a route on a session. -/
def callRoute (v : Service) (method path id : String) (route : List String) (args : Json) :
    Envelope × Service :=
  match Operation.ofRoute? ("/".intercalate route) with
  | some op => v.dispatch id op.name args
  | none => (noRoute method path, v)

/-- Answers a request whose body has been read. -/
def route (v : Service) (method path : String) (args : Json) : Envelope × Service :=
  if method = "GET" then
    match segments path with
    | ["v1", "health"] => (health v, v)
    | ["v1", "methods"] => (.success "methods" noArgs (.plain Operation.catalogue), v)
    | ["v1", "sessions"] => (v.listSessions args, v)
    | _ => (noRoute method path, v)
  else if method = "POST" then
    match segments path with
    | ["v1", "load"] => v.loadArtifact args
    | ["v1", "call"] => callNamed v args
    | ["v1", "sessions", id, "close"] =>
      v.closeSession (.ofMembers [("session_id", .string id)])
    | "v1" :: "sessions" :: id :: rest => callRoute v method path id rest args
    | _ => (noRoute method path, v)
  else (noRoute method path, v)

/-- Answers a request. The body is read before the path is looked at. -/
def handle (v : Service) (method path : String) (body : ByteArray) : Envelope × Service :=
  match readBody body with
  | .error e => (.failure path noArgs e, v)
  | .ok args => route v method path args

end Rest
end DexQuery
