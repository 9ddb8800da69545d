import DexQuery.Engine.Json
import DexQuery.Session.Basic

/-!
# Answers

A question about a session has an answer, with warnings about what could not be found out, or it is
broken off: by a failure, or by a panic of the engine. What the engine does not know is a failure
of the question at hand.
-/

namespace DexQuery

/-- The answer to a question, before it goes into an envelope. -/
structure Output where
  data : Json
  warnings : List String
  truncated : Bool

/-- An answer with warnings. -/
def Output.warned (data : Json) (warnings : List String) : Output := ⟨data, warnings, false⟩

/-- An answer without warnings. -/
def Output.plain (data : Json) : Output := ⟨data, [], false⟩

/-- What breaks off the answer to a question. -/
inductive Abort where
  | failed (failure : Failure)
  | panicked (message : String)

namespace Abort

/-- What a fault of the engine does to the question at hand. -/
def ofFault : Fault → Abort
  | .error causes => .failed (.engineFailed (Fault.chain causes))
  | .panic message => .panicked message

/-- The failure that the caller gets: a panic counts as a failure of the engine. -/
def failure : Abort → Failure
  | .failed f => f
  | .panicked message => .engineFailed message

end Abort

/-- The engine's answer as part of an answer. -/
def ask {α : Type} : Reply α → Except Abort α
  | .ok x => .ok x
  | .error fault => .error (.ofFault fault)

/-- The engine's answer as part of an answer, with the failure for what it does not know. -/
def askKnown {α : Type} (missing : Failure) : Reply (Option α) → Except Abort α
  | .ok (some x) => .ok x
  | .ok none => .error (.failed missing)
  | .error fault => .error (.ofFault fault)

namespace Session

/-- The aliases of a session by identifier. -/
def labels (s : Session) : Except Abort (List (String × Label)) :=
  match s.aliases.entries with
  | .ok rows => .ok rows
  | .error e => .error (.failed e)

/-- An answer that names its session and where it comes from. -/
def answer (s : Session) (members : List (String × Json)) : Json :=
  .ofMembers (("session_id", .string s.id) :: ("provenance", s.provenance) :: members)

/-- An answer that only says where it comes from. -/
def unnamedAnswer (s : Session) (members : List (String × Json)) : Json :=
  .ofMembers (("provenance", s.provenance) :: members)

end Session
end DexQuery
