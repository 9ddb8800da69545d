import DexQuery.Operation.Arguments
import DexQuery.Pattern.Reader

/-!
# Requests

A request is an operation with its arguments read: descriptors are parsed and patterns compiled.
Reading needs nothing but the arguments, so a malformed call is refused before any session is
looked at.
-/

namespace DexQuery

/-- What a search for strings looks for: its text, whether that is a pattern, how many values it
may give, and which values it takes. -/
structure StringSearch where
  text : String
  isPattern : Bool
  limit : Nat
  accepts : String → Bool

/-- The search for a text or a pattern. -/
def StringSearch.of (text : String) (isPattern : Bool) (limit : Nat) :
    Except Failure StringSearch :=
  if isPattern then
    match Pattern.read? text with
    | some p => .ok ⟨text, true, limit, p.matchesIn⟩
    | none => .error (.invalidPattern "regex parse error")
  else .ok ⟨text, false, limit, fun value => Text.occursIn text.toList value.toList⟩

/-- A call with its arguments read. -/
inductive Request where
  | listTypes
  | listPackages
  | hierarchy (type : TypeId)
  | dependencies (type : TypeId)
  | listMethods (type : TypeId)
  | listMethodsDetail (type : TypeId)
  | listFields (type : TypeId)
  | annotations (target : EntityId)
  | decompileClass (type : TypeId)
  | decompileMethod (method : MethodId)
  | xrefsTo (method : MethodId)
  | xrefsFrom (method : MethodId)
  | fieldXrefs (field : FieldId)
  | classXrefs (type : TypeId)
  | overrides (method : MethodId)
  | unresolved (method : MethodId)
  | searchStrings (search : StringSearch)
  | manifest
  | listResources
  | resourceContent (name : String)
  | rename (id : EntityId) (name : String)
  | removeRename (id : EntityId)
  | listRenames
  | errorReport
  | sessionInfo

namespace Request

/-- The type descriptor in an argument. -/
def typeArg (args : Arguments) (name : String) : Except Failure TypeId :=
  match args.text name with
  | .error e => .error e
  | .ok s => orMalformed (TypeId.read s)

/-- The method descriptor in an argument. -/
def methodArg (args : Arguments) (name : String) : Except Failure MethodId :=
  match args.text name with
  | .error e => .error e
  | .ok s => orMalformed (MethodId.read s)

/-- The field descriptor in an argument. -/
def fieldArg (args : Arguments) (name : String) : Except Failure FieldId :=
  match args.text name with
  | .error e => .error e
  | .ok s => orMalformed (FieldId.read s)

/-- The descriptor of any kind in an argument. -/
def entityArg (args : Arguments) (name : String) : Except Failure EntityId :=
  match args.text name with
  | .error e => .error e
  | .ok s => orMalformed (EntityId.read s)

/-- The target of a question about annotations, which is given by exactly one of three arguments. -/
def annotationTarget (args : Arguments) : Except Failure EntityId :=
  match args.text? "type_id", args.text? "method_id", args.text? "field_id" with
  | none, none, none => .error (.missingArgument "one of type_id, method_id, field_id")
  | some s, none, none => (orMalformed (TypeId.read s)).map .type
  | none, some s, none => (orMalformed (MethodId.read s)).map .method
  | none, none, some s => (orMalformed (FieldId.read s)).map .field
  | _, _, _ => .error (.invalidParams "pass exactly one of type_id, method_id, field_id")

/-- A search for strings. Its limit is looked at first. -/
def searchOf (args : Arguments) : Except Failure Request := do
  let limit ← args.nat "limit"
  if limit = 0 then throw (.invalidParams "limit must be at least 1")
  let text ← args.text "query"
  let isPattern ← args.bool "regex"
  let search ← StringSearch.of text isPattern limit
  pure (.searchStrings search)

/-- A renaming. The alias is looked at before the descriptor and loses the blanks around it. -/
def renameOf (args : Arguments) : Except Failure Request := do
  let given ← args.text "alias"
  let name := Text.trim given.toList
  if name.isEmpty then throw (.invalidParams "alias must not be empty")
  let id ← entityArg args "id"
  pure (.rename id (String.ofList name))

/-- Reads the arguments of an operation. -/
def read (op : Operation) (args : Arguments) : Except Failure Request :=
  match op with
  | .listTypes => .ok .listTypes
  | .listPackages => .ok .listPackages
  | .getHierarchy => (typeArg args "type_id").map .hierarchy
  | .getDependencies => (typeArg args "type_id").map .dependencies
  | .listMethods => (typeArg args "type_id").map .listMethods
  | .listMethodsDetail => (typeArg args "type_id").map .listMethodsDetail
  | .listFields => (typeArg args "type_id").map .listFields
  | .getAnnotations => (annotationTarget args).map .annotations
  | .decompileClass => (typeArg args "type_id").map .decompileClass
  | .decompileMethod => (methodArg args "method_id").map .decompileMethod
  | .xrefsTo => (methodArg args "method_id").map .xrefsTo
  | .xrefsFrom => (methodArg args "method_id").map .xrefsFrom
  | .fieldXrefs => (fieldArg args "field_id").map .fieldXrefs
  | .classXrefs => (typeArg args "type_id").map .classXrefs
  | .overrides => (methodArg args "method_id").map .overrides
  | .unresolvedRefs => (methodArg args "method_id").map .unresolved
  | .searchStrings => searchOf args
  | .getManifest => .ok .manifest
  | .listResources => .ok .listResources
  | .getResourceContent => (args.text "name").map .resourceContent
  | .rename => renameOf args
  | .removeRename => (entityArg args "id").map .removeRename
  | .listRenames => .ok .listRenames
  | .errorReport => .ok .errorReport
  | .sessionInfo => .ok .sessionInfo

/-- The operation with a name, or the failure that lists all names. -/
def resolve (name : String) : Except Failure Operation :=
  match Operation.ofName? name with
  | some op => .ok op
  | none => .error (.unknownMethod name Operation.known)

/-- The request that a method name and its arguments are. -/
def ofCall (method : String) (args : Json) : Except Failure Request :=
  match resolve method with
  | .error e => .error e
  | .ok op =>
    match Arguments.validate op args with
    | .error e => .error e
    | .ok checked => read op checked

end Request
end DexQuery
