import DexQuery.Failure
import DexQuery.Operation.Basic

/-!
# Arguments of operations

The arguments of a call are an object. Checked against the inputs of an operation, every required
input is there, every input has a value of its kind, and the defaults are filled in; an input that
is null counts as absent. What is not an input passes through unchanged.
-/

namespace DexQuery

/-- Arguments by name. -/
abbrev Arguments := List (String × Json)

namespace Arguments

/-- Checks one input in the given arguments and puts its default into the arguments built so far. -/
def checkInput (given : Arguments) (i : Input) (built : Arguments) : Except Failure Arguments :=
  match Keyed.get? i.name given with
  | none => absent
  | some .null => absent
  | some v =>
    if i.kind.accepts v then .ok built
    else .error (.invalidParams ("`" ++ i.name ++ "` must be of type " ++ i.kind.word))
where
  absent : Except Failure Arguments :=
    if i.required then .error (.missingArgument i.name)
    else match i.default with
      | none => .ok (Keyed.erase i.name built)
      | some d => .ok (Keyed.insert i.name d built)

/-- Checks inputs one after the other. -/
def checkInputs (given : Arguments) : List Input → Arguments → Except Failure Arguments
  | [], built => .ok built
  | i :: is, built =>
    match checkInput given i built with
    | .error e => .error e
    | .ok built' => checkInputs given is built'

/-- The arguments that a value is for an operation. -/
def validate (op : Operation) : Json → Except Failure Arguments
  | .object given => checkInputs given op.inputs given
  | _ => .error (.invalidParams "args must be a JSON object")

/-- The text of an argument, if it is one. -/
def text? (args : Arguments) (name : String) : Option String :=
  (Keyed.get? name args).bind Json.asString?

/-- The text of an argument that must be one. -/
def text (args : Arguments) (name : String) : Except Failure String :=
  match args.text? name with
  | some s => .ok s
  | none => .error (.missingArgument name)

/-- The truth value of an argument that must be one. -/
def bool (args : Arguments) (name : String) : Except Failure Bool :=
  match (Keyed.get? name args).bind Json.asBool? with
  | some b => .ok b
  | none => .error (.missingArgument name)

/-- The natural number of an argument that must be one. -/
def nat (args : Arguments) (name : String) : Except Failure Nat :=
  match Keyed.get? name args with
  | none => .error (.missingArgument name)
  | some v =>
    match v.asNat? with
    | some n => .ok n
    | none => .error (.invalidParams ("`" ++ name ++ "` must be a non-negative integer"))

end Arguments
end DexQuery
