import DexQuery.Json.Reader
import DexQuery.Json.Writer
import DexQuery.Transport.Agent

/-!
# Messages of agents

An agent and the service exchange JSON-RPC messages. A message with an id is a request and gets an
answer with the same id; a message without one is a notice and gets none.

| method | result |
| --- | --- |
| `initialize` | what the service can do and what it is for |
| `ping` | an empty object |
| `tools/list` | all tools |
| `tools/call` | the envelope of a call, as a text |
-/

namespace DexQuery
namespace Message

/-- The version of the exchange, unless the agent names one. -/
def protocolVersion : String := "2024-11-05"

/-- The name that the service goes by. -/
def serviceName : String := "jadxd"

/-- An answer to the request with an id. -/
def answerOf (id : Json) (member : String) (value : Json) : Json :=
  .ofMembers [("jsonrpc", .string "2.0"), ("id", id), (member, value)]

/-- The answer to a request that cannot be met. -/
def refusal (id : Json) (code : Int) (reason : String) : Json :=
  answerOf id "error" (.ofMembers [("code", .number (.int code)), ("message", .string reason)])

/-- What an agent is told at the start. -/
def greeting (params : Json) : Json :=
  .ofMembers [
    ("protocolVersion", .string
      (((params.member? "protocolVersion").bind Json.asString?).getD protocolVersion)),
    ("capabilities", .ofMembers [("tools", .object [])]),
    ("serverInfo", .ofMembers [("name", .string serviceName), ("version", .string "0.1.0")]),
    ("instructions", .string Agent.instructions)]

/-- What an agent is told about its request for tools. -/
def ofReaction : Agent.Reaction → Option Json
  | .tools tools => some (.ofMembers [("tools", .listOf Tool.toJson tools)])
  | .result isError envelope =>
    some (.ofMembers [("content", .array [.ofMembers [("type", .string "text"),
      ("text", .string envelope.toJson.compact)]]), ("isError", .bool isError)])
  | .unsupported _ => none

/-- The result of a request, none if its method is unknown. -/
def respond (v : Service) (method : String) (params : Json) : Option Json × Service :=
  if method = "initialize" then (some (greeting params), v)
  else if method = "ping" then (some (.object []), v)
  else
    let (reaction, v') := Agent.react v method params
    (ofReaction reaction, v')

/-- The method and the parameters of a message. -/
def request? (message : Json) : Option (String × Json) :=
  ((message.member? "method").bind Json.asString?).map fun method =>
    (method, (message.member? "params").getD .null)

/-- Answers a message. -/
def answer (v : Service) (message : Json) : Option Json × Service :=
  match message.member? "id" with
  | none => (none, v)
  | some id =>
    match request? message with
    | none => (some (refusal id (-32600) "the message names no method"), v)
    | some (method, params) =>
      match respond v method params with
      | (some result, v') => (some (answerOf id "result" result), v')
      | (none, v') => (some (refusal id (-32601) ("unknown method " ++ method)), v')

/-- Answers the text of a message. -/
def answerText (v : Service) (text : String) : Option String × Service :=
  match Json.read? text.toUTF8.toList with
  | none => (some (refusal .null (-32700) "the message is not valid JSON").compact, v)
  | some message =>
    let (answer, v') := answer v message
    (answer.map Json.compact, v')

/-- The path of the artifact that the text of a message asks to load. -/
def loadPath? (text : String) : Option String := do
  let message ← Json.read? text.toUTF8.toList
  let (_, params) ← request? message
  let args ← params.member? "arguments"
  let path ← args.member? "path"
  path.asString?

end Message
end DexQuery
