import DexQuery.Answer.Basic
import DexQuery.Json.Decode

/-!
# Envelopes

Every call is answered by an envelope: whether it succeeded, the name and the arguments it was
called with, and either the data or the error text. The class of the error is kept beside it for
the transports and is not part of the JSON form, so it is not restored from there.
-/

namespace DexQuery

/-- The answer to a call. -/
structure Envelope where
  ok : Bool
  query : String
  args : Json
  data : Option Json
  error : Option String
  warnings : List String
  truncated : Bool
  kind : Option ErrorCode

namespace Envelope

/-- The envelope of a call that succeeded. -/
def success (query : String) (args : Json) (out : Output) : Envelope :=
  ⟨true, query, args, some out.data, none, out.warnings, out.truncated, none⟩

/-- The envelope of a call that failed. -/
def failure (query : String) (args : Json) (f : Failure) : Envelope :=
  ⟨false, query, args, none, some f.render, [], false, some f.code⟩

/-- The envelope of a call by its result. -/
def ofResult (query : String) (args : Json) : Except Failure Output → Envelope
  | .ok out => success query args out
  | .error f => failure query args f

/-- The JSON form of an envelope, in which absent data and errors are left out. -/
def toJson (e : Envelope) : Json :=
  .ofMembers ([("ok", .bool e.ok), ("query", .string e.query), ("args", e.args)] ++
    (match e.data with
      | none => []
      | some d => [("data", d)]) ++
    (match e.error with
      | none => []
      | some m => [("error", .string m)]) ++
    [("warnings", .strings e.warnings), ("truncated", .bool e.truncated)])

/-- Reads an envelope. Null counts as absent data and as no error. -/
def decode : Json.Decoder Envelope := fun n doc => do
  let f ← Json.Decode.fields
    ["ok", "query", "args", "data", "error", "warnings", "truncated"] n doc
  let ok ← f.required "ok" Json.Decode.bool
  let query ← f.required "query" Json.Decode.text
  let args ← f.required "args" Json.Decode.json
  let data ← f.withDefault "data" none (Json.Decode.optional Json.Decode.json)
  let error ← f.withDefault "error" none (Json.Decode.optional Json.Decode.text)
  let warnings ← f.withDefault "warnings" [] (Json.Decode.list Json.Decode.text)
  let truncated ← f.withDefault "truncated" false Json.Decode.bool
  pure ⟨ok, query, args, data, error, warnings, truncated, none⟩

/-- The envelope that a JSON value is. -/
def ofJson? : Json → Option Envelope := Json.Decode.ofValue? decode

end Envelope
end DexQuery
