import DexQuery.Descriptor.Reader
import DexQuery.Text.Quoted

/-!
# Failures

Everything that can keep a query from being answered, with its wording and its code. The code is
what a caller can act on; an envelope carries both as `CODE: wording`.
-/

namespace DexQuery

/-- The classes of failures that callers can tell apart. -/
inductive ErrorCode where
  | notFound
  | invalidInput
  | loadFailed
  | engineFailure
  | internal
deriving DecidableEq

/-- The word for a class of failures. -/
def ErrorCode.word : ErrorCode → String
  | .notFound => "NOT_FOUND"
  | .invalidInput => "INVALID_INPUT"
  | .loadFailed => "LOAD_FAILED"
  | .engineFailure => "UPSTREAM_FAILURE"
  | .internal => "INTERNAL"

/-- Why a query was not answered. -/
inductive Failure where
  | sessionNotFound (id : String)
  | typeNotFound (id : String)
  | methodNotFound (id : String)
  | fieldNotFound (id : String)
  | resourceNotFound (name : String)
  | manifestUnavailable
  | invalidDescriptor (input reason : String)
  | invalidPattern (reason : String)
  | missingArgument (name : String)
  | invalidParams (reason : String)
  | unknownMethod (name known : String)
  | loadFailed (path reason : String)
  | engineFailed (reason : String)
  | sessionClosed
  | internal (reason : String)
deriving DecidableEq

namespace Failure

/-- The class of a failure. -/
def code : Failure → ErrorCode
  | .sessionNotFound _ | .typeNotFound _ | .methodNotFound _ | .fieldNotFound _
  | .resourceNotFound _ | .manifestUnavailable | .sessionClosed => .notFound
  | .invalidDescriptor .. | .invalidPattern _ | .missingArgument _ | .invalidParams _
  | .unknownMethod .. => .invalidInput
  | .loadFailed .. => .loadFailed
  | .engineFailed _ => .engineFailure
  | .internal _ => .internal

/-- The wording of a failure. -/
def message : Failure → String
  | .sessionNotFound id => "Session not found: " ++ id
  | .typeNotFound id => "Type not found: " ++ id
  | .methodNotFound id => "Method not found: " ++ id
  | .fieldNotFound id => "Field not found: " ++ id
  | .resourceNotFound name => "Resource not found: " ++ name
  | .manifestUnavailable => "Manifest unavailable for this input"
  | .invalidDescriptor input reason =>
    "Invalid descriptor " ++ Text.quote input ++ ": " ++ reason
  | .invalidPattern reason => "Invalid search pattern: " ++ reason
  | .missingArgument name => "Missing required argument: " ++ name
  | .invalidParams reason => "Invalid parameters: " ++ reason
  | .unknownMethod name known =>
    "Unknown method " ++ Text.quote name ++ "; known methods: " ++ known
  | .loadFailed path reason => "Failed to load " ++ path ++ ": " ++ reason
  | .engineFailed reason => "Engine error: " ++ reason
  | .sessionClosed => "Session closed"
  | .internal reason => "Internal error: " ++ reason

/-- The failure as an envelope carries it. -/
def render (f : Failure) : String := f.code.word ++ ": " ++ f.message

/-- A text that is no descriptor, as a failure. -/
def ofMalformed (m : Malformed) : Failure := .invalidDescriptor m.input m.reason.message

end Failure

/-- The answer of a reader of descriptors as the answer of a query. -/
def orMalformed {α : Type} : Except Malformed α → Except Failure α
  | .ok x => .ok x
  | .error m => .error (.ofMalformed m)

end DexQuery
