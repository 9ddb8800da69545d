import DexQuery.Json.Writer
import DexQuery.Operation.Basic

/-!
# The manual of operations

A Markdown page with a table of the operations of each category, in the order of their names.
-/

namespace DexQuery
namespace Manual

/-- An input in a table. -/
def inputText (i : Input) : String :=
  "`" ++ i.name ++ "`: " ++ i.kind.word ++
    match i.default with
    | some d => " = " ++ d.compact
    | none => if i.required then "" else " (optional)"

/-- The inputs of an operation in a table. -/
def inputsText (op : Operation) : String :=
  if op.inputs.isEmpty then "none" else "<br>".intercalate (op.inputs.map inputText)

/-- The row of an operation. -/
def row (op : Operation) : String :=
  "| `" ++ op.name ++ "`" ++ (if op.declaration.isWrite then " (write)" else "") ++ " | `" ++
    op.route ++ "` | " ++ inputsText op ++ " | " ++ op.declaration.description ++ " |"

/-- The operations of a category in the order of their names. -/
def sorted (c : Category) : List Operation :=
  (Operation.ofCategory c).mergeSort fun a b => decide (a.name ≤ b.name)

/-- The lines about a category. -/
def categoryLines (c : Category) : List String :=
  ["## " ++ c.title ++ " (`" ++ c.word ++ "`)", "", c.description, "",
    "| Method | Route | Inputs | Description |", "|--------|-------|--------|-------------|"] ++
    (sorted c).map row ++ [""]

/-- The lines before the tables. -/
def opening : List String :=
  ["# Methods", "", "> Auto-generated from `src/schema.rs`. Do not edit by hand.",
    "> Regenerate with: `cargo run --bin gen_methods_doc -- docs/METHODS.md`.", "",
    "## Workflow", "",
    "- `load_artifact(path, settings?)` returns a `session_id` (currently " ++
      toString Operation.all.length ++ " query methods)",
    "- MCP: every method below is a tool taking `session_id` plus its inputs",
    "- REST: `POST /v1/sessions/\x7bid\x7d/<route>` with the inputs as a JSON body, " ++
      "or `POST /v1/call` with `\x7bsession_id, method, args\x7d`",
    "- `close_session(session_id)` releases the engine", ""]

/-- The lines after the tables. -/
def closing : List String :=
  ["## Notes", "",
    "- Identifiers are descriptors: `Lpkg/Foo;`, `Lpkg/Foo;->bar(I)V`, `Lpkg/Foo;->count:I`",
    "- Every result is an envelope `\x7bok, query, args, data?, error?, warnings, truncated\x7d`",
    "- Errors are `CODE: message` with CODE one of NOT_FOUND, INVALID_INPUT, LOAD_FAILED, " ++
      "UPSTREAM_FAILURE, INTERNAL",
    "- Aliases are display-only; decompiled text never changes after a rename"]

/-- The text of the manual. -/
def text : String :=
  String.join ((opening ++ Category.all.flatMap categoryLines ++ closing).map fun l => l ++ "\n")

end Manual
end DexQuery
