import DexQuery.Operation.Request

/-!
# How calls are read

A call is read in three steps, and each of them can refuse it: its method has to be one of the
operations, its arguments have to fit the inputs of the operation, and what they say has to make
sense (`Request.Refused`). Nothing but the method and the arguments is looked at. A refusal is
always of the class of invalid input (`Request.Refused.code`), and what has been read is a request
of the operation that the call named (`Request.resolve_of_ofCall`).

`Reads p x` says both of a step with the result `x`: it fails by the input alone, or gives something
of which `p` holds. It is kept by every way in which steps are put together, so each reader is
settled by its own steps.
-/

namespace DexQuery

/-- The result is a value of which `p` holds, or the failure of an input. -/
def Reads {α : Type} (p : α → Prop) : Except Failure α → Prop
  | .error f => f.code = .invalidInput
  | .ok x => p x

/-- The result is any value or the failure of an input. -/
abbrev ReadsAny {α : Type} (x : Except Failure α) : Prop := Reads (fun _ => True) x

namespace Reads

variable {α β : Type} {p : α → Prop} {q : β → Prop} {x : Except Failure α}

theorem code (h : Reads p x) {f : Failure} (hx : x = .error f) : f.code = .invalidInput := by
  subst hx
  exact h

theorem value (h : Reads p x) {y : α} (hx : x = .ok y) : p y := by
  subst hx
  exact h

theorem map {make : α → β} (h : ReadsAny x) (hmake : ∀ y, q (make y)) : Reads q (x.map make) := by
  cases x with
  | error f => exact h
  | ok y => exact hmake y

theorem bind {next : α → Except Failure β} (h : ReadsAny x) (hnext : ∀ y, Reads q (next y)) :
    Reads q (x >>= next) := by
  cases x with
  | error f => exact h
  | ok y => exact hnext y

/-- A test that throws leaves what comes after it. -/
theorem guard {c : Prop} [Decidable c] {f : Failure} (hf : f.code = .invalidInput) (h : Reads p x) :
    Reads p (if c then throw f >>= fun _ : PUnit => x else x) := by
  split
  · exact hf
  · exact h

theorem orMalformed (x : Except Malformed α) : ReadsAny (DexQuery.orMalformed x) := by
  cases x with
  | error m => exact (rfl : (Failure.ofMalformed m).code = .invalidInput)
  | ok y => exact trivial

end Reads

/-! ## Arguments -/

namespace Arguments

variable (given args : Arguments) (name : String)

theorem reads_absent (i : Input) (built : Arguments) : ReadsAny (checkInput.absent i built) := by
  unfold checkInput.absent
  split
  · exact (rfl : (Failure.missingArgument i.name).code = .invalidInput)
  · split <;> exact trivial

theorem reads_checkInput (i : Input) (built : Arguments) :
    ReadsAny (checkInput given i built) := by
  unfold checkInput
  split
  · exact reads_absent i built
  · exact reads_absent i built
  · split
    · exact trivial
    · exact (rfl : (Failure.invalidParams _).code = .invalidInput)

theorem reads_checkInputs (is : List Input) (built : Arguments) :
    ReadsAny (checkInputs given is built) := by
  induction is generalizing built with
  | nil => exact trivial
  | cons i is ih =>
    unfold checkInputs
    split
    · rename_i f hf
      exact (reads_checkInput given i built).code hf
    · exact ih _

theorem reads_validate (op : Operation) (j : Json) : ReadsAny (validate op j) := by
  cases j with
  | object ms => exact reads_checkInputs ms op.inputs ms
  | _ => exact (rfl : (Failure.invalidParams _).code = .invalidInput)

theorem reads_text : ReadsAny (args.text name) := by
  unfold text
  split
  · exact trivial
  · exact (rfl : (Failure.missingArgument name).code = .invalidInput)

theorem reads_bool : ReadsAny (args.bool name) := by
  unfold bool
  split
  · exact trivial
  · exact (rfl : (Failure.missingArgument name).code = .invalidInput)

theorem reads_nat : ReadsAny (args.nat name) := by
  unfold nat
  split
  · exact (rfl : (Failure.missingArgument name).code = .invalidInput)
  · split
    · exact trivial
    · exact (rfl : (Failure.invalidParams _).code = .invalidInput)

end Arguments

/-! ## Requests -/

/-- A pattern is compiled, or refused as no pattern. -/
theorem StringSearch.reads_of (text : String) (isPattern : Bool) (limit : Nat) :
    ReadsAny (StringSearch.of text isPattern limit) := by
  unfold StringSearch.of
  split
  · split
    · exact trivial
    · exact (rfl : (Failure.invalidPattern _).code = .invalidInput)
  · exact trivial

namespace Request

/-- The operation that a request asks for. -/
def operation : Request → Operation
  | .listTypes => .listTypes
  | .listPackages => .listPackages
  | .hierarchy _ => .getHierarchy
  | .dependencies _ => .getDependencies
  | .listMethods _ => .listMethods
  | .listMethodsDetail _ => .listMethodsDetail
  | .listFields _ => .listFields
  | .annotations _ => .getAnnotations
  | .decompileClass _ => .decompileClass
  | .decompileMethod _ => .decompileMethod
  | .xrefsTo _ => .xrefsTo
  | .xrefsFrom _ => .xrefsFrom
  | .fieldXrefs _ => .fieldXrefs
  | .classXrefs _ => .classXrefs
  | .overrides _ => .overrides
  | .unresolved _ => .unresolvedRefs
  | .searchStrings _ => .searchStrings
  | .manifest => .getManifest
  | .listResources => .listResources
  | .resourceContent _ => .getResourceContent
  | .rename _ _ => .rename
  | .removeRename _ => .removeRename
  | .listRenames => .listRenames
  | .errorReport => .errorReport
  | .sessionInfo => .sessionInfo

variable (args : Arguments) (name : String)

/-! ### One argument -/

/-- An identifier in an argument is read, or refused as malformed. -/
theorem reads_identifier {α : Type} (parse : String → Except Malformed α)
    (x : Except Failure String) (hx : ReadsAny x) : ReadsAny (match x with
      | .error e => .error e
      | .ok s => orMalformed (parse s)) := by
  cases x with
  | error f => exact hx
  | ok s => exact Reads.orMalformed _

theorem reads_typeArg : ReadsAny (typeArg args name) :=
  reads_identifier TypeId.read _ (args.reads_text name)

theorem reads_methodArg : ReadsAny (methodArg args name) :=
  reads_identifier MethodId.read _ (args.reads_text name)

theorem reads_fieldArg : ReadsAny (fieldArg args name) :=
  reads_identifier FieldId.read _ (args.reads_text name)

theorem reads_entityArg : ReadsAny (entityArg args name) :=
  reads_identifier EntityId.read _ (args.reads_text name)

/-! ### All arguments of an operation -/

theorem reads_annotationTarget : ReadsAny (annotationTarget args) := by
  unfold annotationTarget
  split
  · exact (rfl : (Failure.missingArgument _).code = .invalidInput)
  · exact (Reads.orMalformed _).map fun _ => trivial
  · exact (Reads.orMalformed _).map fun _ => trivial
  · exact (Reads.orMalformed _).map fun _ => trivial
  · exact (rfl : (Failure.invalidParams _).code = .invalidInput)

theorem reads_searchOf : Reads (·.operation = .searchStrings) (searchOf args) := by
  refine (args.reads_nat "limit").bind fun limit => Reads.guard rfl ?_
  refine (args.reads_text "query").bind fun text => ?_
  refine (args.reads_bool "regex").bind fun isPattern => ?_
  exact (StringSearch.reads_of text isPattern limit).bind fun _ =>
    (rfl : operation (.searchStrings _) = .searchStrings)

theorem reads_renameOf : Reads (·.operation = .rename) (renameOf args) := by
  refine (args.reads_text "alias").bind fun given => Reads.guard rfl ?_
  exact (reads_entityArg args "id").bind fun _ => (rfl : operation (.rename _ _) = .rename)

/-- Reading fails by the input alone, or gives a request of the operation. -/
theorem reads_read (op : Operation) : Reads (·.operation = op) (read op args) := by
  cases op with
  | listTypes | listPackages | getManifest | listResources | listRenames | errorReport
  | sessionInfo => exact rfl
  | getHierarchy | getDependencies | listMethods | listMethodsDetail | listFields
  | decompileClass | classXrefs => exact (reads_typeArg args _).map fun _ => rfl
  | decompileMethod | xrefsTo | xrefsFrom | overrides | unresolvedRefs =>
    exact (reads_methodArg args _).map fun _ => rfl
  | fieldXrefs => exact (reads_fieldArg args _).map fun _ => rfl
  | getAnnotations => exact (reads_annotationTarget args).map fun _ => rfl
  | searchStrings => exact reads_searchOf args
  | getResourceContent => exact (args.reads_text _).map fun _ => rfl
  | rename => exact reads_renameOf args
  | removeRename => exact (reads_entityArg args _).map fun _ => rfl

/-- Only the name of an operation is resolved, and to that operation. -/
theorem reads_resolve : Reads (·.name = name) (resolve name) := by
  unfold resolve
  split
  · rename_i op hop
    unfold Operation.ofName? at hop
    have hname := List.find?_some hop
    exact (eq_of_beq hname : op.name = name)
  · exact (rfl : (Failure.unknownMethod _ _).code = .invalidInput)

/-! ## The three steps of reading a call -/

/-- The call is refused with a failure: it names no operation, its arguments do not fit the inputs
of the operation, or what they say makes no sense. -/
inductive Refused (method : String) (args : Json) (f : Failure) : Prop where
  | unknown (h : resolve method = .error f)
  | invalid (op : Operation) (hop : resolve method = .ok op)
      (h : Arguments.validate op args = .error f)
  | unread (op : Operation) (checked : Arguments) (hop : resolve method = .ok op)
      (hchecked : Arguments.validate op args = .ok checked) (h : read op checked = .error f)

variable {method : String} {args : Json} {f : Failure}

theorem ofCall_eq_error_iff : ofCall method args = .error f ↔ Refused method args f := by
  constructor
  · intro h
    unfold ofCall at h
    split at h
    · rename_i e he
      obtain rfl := Except.error.inj h
      exact .unknown he
    · rename_i op hop
      split at h
      · rename_i e he
        obtain rfl := Except.error.inj h
        exact .invalid op hop he
      · rename_i checked hchecked
        exact .unread op checked hop hchecked h
  · rintro (h | ⟨op, hop, h⟩ | ⟨op, checked, hop, hchecked, h⟩)
    · simp only [ofCall, h]
    · simp only [ofCall, hop, h]
    · simp only [ofCall, hop, hchecked, h]

/-- Every refusal is a failure of the input. -/
theorem Refused.code (h : Refused method args f) : f.code = .invalidInput := by
  rcases h with h | ⟨op, -, h⟩ | ⟨op, checked, -, -, h⟩
  · exact (reads_resolve method).code h
  · exact (Arguments.reads_validate op args).code h
  · exact (reads_read checked op).code h

/-- A call that is not refused is read. -/
theorem exists_ofCall_of_not_refused (h : ¬ ∃ f, Refused method args f) :
    ∃ r, ofCall method args = .ok r := by
  cases hr : ofCall method args with
  | error f => exact absurd ⟨f, ofCall_eq_error_iff.1 hr⟩ h
  | ok r => exact ⟨r, rfl⟩

theorem resolve_name (op : Operation) : resolve op.name = .ok op := by
  cases op <;> rfl

theorem name_injective : Function.Injective Operation.name := fun op op' h =>
  Except.ok.inj ((resolve_name op).symm.trans ((congrArg resolve h).trans (resolve_name op')))

/-- What has been read is a request of the operation that the name resolves to. -/
theorem resolve_of_ofCall {r : Request} (h : ofCall method args = .ok r) :
    resolve method = .ok r.operation := by
  unfold ofCall at h
  split at h
  · cases h
  · rename_i op hop
    split at h
    · cases h
    · rename_i checked _
      rw [(reads_read checked op).value h]
      exact hop

/-- What has been read is a request of the operation with the name. -/
theorem name_of_ofCall {r : Request} (h : ofCall method args = .ok r) :
    r.operation.name = method :=
  (reads_resolve method).value (resolve_of_ofCall h)

theorem operation_of_ofCall {op : Operation} {r : Request} (h : ofCall op.name args = .ok r) :
    r.operation = op :=
  Except.ok.inj ((resolve_of_ofCall h).symm.trans (resolve_name op))

end Request
end DexQuery
