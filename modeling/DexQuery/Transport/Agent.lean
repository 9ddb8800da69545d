import DexQuery.Operation.Schema
import DexQuery.Service.Lifecycle

/-!
# Tools for agents

An agent sees the calls of the service as tools: three about sessions, and one for each operation,
which takes the id of a session beside the operation's own arguments.
-/

namespace DexQuery

/-- A tool: its name, what it is for, and the JSON Schema object of its arguments. -/
structure Tool where
  name : String
  description : String
  schema : Json

/-- A tool as a value. -/
def Tool.toJson (t : Tool) : Json :=
  .ofMembers [("name", .string t.name), ("description", .string t.description),
    ("inputSchema", t.schema)]

namespace Agent

/-- A property of a JSON Schema object. -/
def property (type description : String) : Json :=
  .ofMembers [("type", .string type), ("description", .string description)]

/-- A property for a switch with its default. -/
def switch (default : Bool) : Json :=
  .ofMembers [("type", .string "boolean"), ("default", .bool default)]

/-- The property for decompile settings. -/
def settingsProperty : Json :=
  .ofMembers [("type", .string "object"),
    ("description", .string "Decompile settings; omitted fields keep their defaults"),
    ("properties", .ofMembers [
      ("deobfuscation", switch Settings.default.deobfuscation),
      ("inline_methods", switch Settings.default.inlineMethods),
      ("show_inconsistent_code", switch Settings.default.showInconsistentCode)])]

/-- The tool that loads an artifact. -/
def loadTool : Tool where
  name := Service.loadName
  description := "Load an artifact into a new session. Returns session_id, artifact hash, " ++
    "class count, cache key and provenance."
  schema := .ofMembers [("type", .string "object"),
    ("properties", .ofMembers [
      ("path", property "string" "Path to the artifact (~/ is expanded)"),
      ("settings", settingsProperty)]),
    ("required", .strings ["path"])]

/-- The tool that closes a session. -/
def closeTool : Tool where
  name := Service.closeName
  description := "Close a session and release its engine and aliases. Closing twice is harmless."
  schema := .ofMembers [("type", .string "object"),
    ("properties", .ofMembers [("session_id", property "string" "Session to close")]),
    ("required", .strings ["session_id"])]

/-- The tool that lists sessions. -/
def listTool : Tool where
  name := Service.listName
  description := "List live sessions with artifact hash, cache key, status and timestamps."
  schema := .ofMembers [("type", .string "object"), ("properties", .ofMembers [])]

/-- The tool of an operation. -/
def toolOf (op : Operation) : Tool := ⟨op.name, op.declaration.description, op.jsonSchema⟩

/-- All tools. -/
def tools : List Tool := [loadTool, closeTool, listTool] ++ Operation.all.map toolOf

/-- What an agent is told about the service. -/
def instructions : String :=
  "Query service over a Java/Dalvik decompiler.\n\nWorkflow:\n" ++
    "1. load_artifact: load an APK/DEX analysis export; returns a session_id\n" ++
    "2. Call any query tool with that session_id\n3. close_session when done\n\n" ++
    "Identifiers are descriptors: Lcom/example/Foo; for types, " ++
    "Lcom/example/Foo;->bar(I)V for methods, Lcom/example/Foo;->count:I for fields.\n" ++
    "Every result is an envelope \x7bok, query, args, data, error, warnings, truncated\x7d.\n\n" ++
    "Categories:\n" ++
    "\n".intercalate (Category.all.map fun c => "- " ++ c.word ++ ": " ++ c.description)

/-- Calls the tool of an operation: the id of the session is taken out of the arguments. -/
def callOperation (v : Service) (name : String) (args : Arguments) : Envelope × Service :=
  match Request.resolve name with
  | .error e => (.failure name (.object args) e, v)
  | .ok _ =>
    match args.text? "session_id" with
    | none => (.failure name (.object args) (.missingArgument "session_id"), v)
    | some id => v.dispatch id name (.object (Keyed.erase "session_id" args))

/-- Calls a tool. -/
def call (v : Service) (name : String) (args : Arguments) : Envelope × Service :=
  if name = Service.loadName then v.loadArtifact (.object args)
  else if name = Service.closeName then v.closeSession (.object args)
  else if name = Service.listName then (v.listSessions (.object args), v)
  else callOperation v name args

/-- The answer to a request of an agent about tools. -/
inductive Reaction where
  | tools (tools : List Tool)
  | result (isError : Bool) (envelope : Envelope)
  | unsupported (method : String)

/-- Answers a request of an agent by its method and parameters. -/
def react (v : Service) (method : String) (params : Json) : Reaction × Service :=
  if method = "tools/list" then (.tools tools, v)
  else if method = "tools/call" then
    let name := ((params.member? "name").bind Json.asString?).getD ""
    let args := match params.member? "arguments" with
      | some (.object ms) => ms
      | _ => []
    let (envelope, v') := call v name args
    (.result (!envelope.ok) envelope, v')
  else (.unsupported method, v)

end Agent
end DexQuery
