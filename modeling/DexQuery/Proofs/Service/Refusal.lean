import DexQuery.Proofs.Service.Lifecycle
import DexQuery.Proofs.Service.Found
import DexQuery.Proofs.Session.Overlay

/-!
# Calls that are refused

A call is refused as invalid input exactly if it cannot be read, which its method and its arguments
alone decide (`Service.dispatch_invalidInput`): the service is not looked at and left as it was.
What has been read can fail in many ways, but as invalid input never, and neither as a failure to
load (`Session.run_code`).
-/

namespace DexQuery

theorem Failure.OfEngine.code {f : Failure} (h : f.OfEngine) :
    f.code = .notFound ∨ f.code = .engineFailure := by
  cases h with
  | failed reason => exact .inr rfl
  | _ => exact .inl rfl

theorem Failure.render_sessionNotFound (id : String) :
    (Failure.sessionNotFound id).render = "NOT_FOUND: Session not found: " ++ id := by
  have hprefix : "NOT_FOUND" ++ ": " ++ "Session not found: " =
      "NOT_FOUND: Session not found: " := by decide
  rw [← hprefix]
  exact (String.append_assoc ..).symm

/-- **A request is never refused as invalid.** Whatever the state of the session, a request that is
run fails in another way. -/
theorem Session.run_code {s : Session} {files : Files.Tree} {r : Request} {f : Failure}
    (h : (s.run files r).1 = .error f) : f.code ≠ .invalidInput ∧ f.code ≠ .loadFailed := by
  have hcode : f.code = .notFound ∨ f.code = .engineFailure := by
    rcases s.run_error files h with hf | rfl
    · exact hf.code
    · exact .inl rfl
  rcases hcode with hcode | hcode <;> rw [hcode] <;> decide

namespace Service

variable {v : Service} {id method : String} {args : Json} {f : Failure}

theorem dispatch_of_refused (h : Request.Refused method args f) (v : Service) (id : String) :
    v.dispatch id method args = (.failure method args f, v) := by
  simp only [dispatch, call_of_unread (Request.ofCall_eq_error_iff.2 h)]
  rfl

theorem dispatch_of_unregistered {r : Request} (hr : Request.ofCall method args = .ok r)
    (h : v.place? id = none) :
    v.dispatch id method args = (.failure method args (.sessionNotFound id), v) := by
  have hf : v.found? id = none := by simp only [found?, h, Option.bind_none]
  simp only [dispatch, call_of_not_found hr hf]
  rfl

/-- A call that is read is not refused as invalid. -/
theorem call_code {r : Request} (hr : Request.ofCall method args = .ok r)
    (h : (v.call id method args).1 = .error f) : f.code ≠ .invalidInput := by
  cases hf : v.found? id with
  | none =>
    rw [call_of_not_found hr hf] at h
    obtain rfl := Except.error.inj h
    exact fun hcode => by cases hcode
  | some found =>
    obtain ⟨p, s⟩ := found
    rw [call_of_found hr hf] at h
    exact (Session.run_code h).1

theorem kind_dispatch_eq_some_iff {code : ErrorCode} :
    (v.dispatch id method args).1.kind = some code ↔
      ∃ f, (v.call id method args).1 = .error f ∧ f.code = code := by
  simp only [dispatch]
  cases (v.call id method args).1 with
  | error f => simp [Envelope.ofResult, Envelope.failure]
  | ok out => simp [Envelope.ofResult, Envelope.success]

/-- **Whether a call is invalid is seen from the call alone.** It is refused as invalid input if and
only if it cannot be read; then every service answers it in the same way, whatever the id, and is
left as it was. A call that can be read is not found under an id that is not registered, and a
request that is run never fails as invalid input or as a failure to load. -/
theorem dispatch_invalidInput (method : String) (args : Json) :
    (∀ (v : Service) (id : String), (v.dispatch id method args).1.kind = some .invalidInput ↔
        ∃ f, Request.Refused method args f) ∧
      (∀ f, Request.Refused method args f → ∀ (v : Service) (id : String),
        v.dispatch id method args = (.failure method args f, v)) ∧
      ((¬ ∃ f, Request.Refused method args f) → ∀ (v : Service) (id : String),
        v.place? id = none → (v.dispatch id method args).2 = v ∧
          (v.dispatch id method args).1.error = some ("NOT_FOUND: Session not found: " ++ id)) ∧
      ∀ (s : Session) (files : Files.Tree) (r : Request) (f : Failure),
        (s.run files r).1 = .error f → f.code ≠ .invalidInput ∧ f.code ≠ .loadFailed := by
  refine ⟨fun v id => ⟨fun h => ?_, ?_⟩, fun f h v id => dispatch_of_refused h v id,
    fun h v id hplace => ?_, fun s files r f => Session.run_code⟩
  · obtain ⟨f, hf, hcode⟩ := kind_dispatch_eq_some_iff.1 h
    cases hr : Request.ofCall method args with
    | error f' => exact ⟨f', Request.ofCall_eq_error_iff.1 hr⟩
    | ok r => exact absurd hcode (call_code hr hf)
  · rintro ⟨f, h⟩
    rw [dispatch_of_refused h v id]
    exact congrArg some h.code
  · obtain ⟨r, hr⟩ := Request.exists_ofCall_of_not_refused h
    rw [dispatch_of_unregistered hr hplace]
    exact ⟨rfl, congrArg some (Failure.render_sessionNotFound id)⟩

/-! ### A sample -/

/-- A search without its text is refused everywhere alike, and a list of types is not found where no
session is open. -/
theorem dispatch_invalidInput_sample :
    sample.dispatch "x" "search_strings" (.object []) =
        (.failure "search_strings" (.object []) (.missingArgument "query"), sample) ∧
      (sample.dispatch "x" "list_types" (.object [])).1.error =
        some "NOT_FOUND: Session not found: x" := by
  have hsearch : Request.Refused "search_strings" (.object []) (.missingArgument "query") :=
    Request.ofCall_eq_error_iff.1 rfl
  have hlist : ¬ ∃ f, Request.Refused "list_types" (.object []) f := by
    rintro ⟨f, hf⟩
    cases Request.ofCall_eq_error_iff.2 hf
  exact ⟨(dispatch_invalidInput _ _).2.1 _ hsearch sample "x",
    ((dispatch_invalidInput _ _).2.2.1 hlist sample "x" rfl).2⟩

end Service
end DexQuery
