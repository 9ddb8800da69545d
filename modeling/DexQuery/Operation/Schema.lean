import DexQuery.Operation.Basic

/-!
# Schemas of operations

Two JSON forms of what is declared about an operation: the entry of the catalogue, and the JSON
Schema object of an agent's tool. A tool takes the id of a session in front of the operation's own
inputs.
-/

namespace DexQuery

/-- An input in the catalogue. -/
def Input.toJson (i : Input) : Json :=
  .ofMembers ([("type", .string i.kind.word), ("description", .string i.description)] ++
    (if i.required then [("required", .bool true)] else []) ++
    (match i.default with
      | none => []
      | some d => [("default", d)]))

/-- An input as a property of a JSON Schema object. -/
def Input.property (i : Input) : Json :=
  .ofMembers ([("type", .string i.kind.word), ("description", .string i.description)] ++
    (match i.default with
      | none => []
      | some d => [("default", d)]))

namespace Operation

/-- The entry of an operation in the catalogue. -/
def toJson (op : Operation) : Json :=
  .ofMembers [("description", .string op.declaration.description),
    ("input_schema", .ofMembers (op.inputs.map fun i => (i.name, i.toJson))),
    ("is_write", .bool op.declaration.isWrite)]

/-- The catalogue: the entries of all operations by name. -/
def catalogue : Json := .ofMembers (all.map fun op => (op.name, op.toJson))

/-- The id of a session as a property of a JSON Schema object. -/
def sessionProperty : Json :=
  .ofMembers [("type", .string "string"),
    ("description", .string "Session id returned by load_artifact")]

/-- The inputs of an operation and the id of a session as a JSON Schema object. -/
def jsonSchema (op : Operation) : Json :=
  .ofMembers [("type", .string "object"),
    ("properties", .ofMembers (("session_id", sessionProperty) ::
      op.inputs.map fun i => (i.name, i.property))),
    ("required", .strings ("session_id" ::
      (op.inputs.filter fun i => i.required).map fun i => i.name))]

end Operation
end DexQuery
