import DexQuery.Proofs.Answer.Data
import DexQuery.Proofs.Service.Overlay
import DexQuery.Transport.Agent
import DexQuery.Transport.Rest

/-!
# Every answer is a well-formed envelope

An envelope is made in three ways: for a call that succeeded, for one that failed, and by hand for a
request that leads nowhere. Which of its parts are present hangs on whether it is ok, and its status
on the code before its error text, in which the code stands for itself: no word for a code has a
colon in it (`ErrorCode.text_unique`). The one part that hangs on what was asked is whether the
answer is cut off, and this only a search for strings can be (`Session.runOn_complete`).

So all answers of both transports are well formed, in every state and whatever the request
(`Agent.wellFormed_call`, `Rest.wellFormed_handle`), and the two results are put together in
`Service.answers_wellFormed`.
-/

namespace DexQuery

/-! ## Error texts -/

namespace ErrorCode

/-- The error text with the code and a message. -/
def text (code : ErrorCode) (message : String) : String := code.word ++ ": " ++ message

/-- The status of an answer that failed with the code. -/
def status : ErrorCode → Nat
  | .notFound => 404
  | .invalidInput => 400
  | .loadFailed => 422
  | .engineFailure => 502
  | .internal => 500

theorem word_injective : Function.Injective word := by
  intro a b h
  cases a <;> cases b <;> first | rfl | exact absurd h (by decide)

/-- The word for the code is what stands before the first colon of the text. -/
theorem splitFirst?_text (code : ErrorCode) (message : String) :
    Text.splitFirst? ':' (code.text message).toList =
      some (code.word.toList, ' ' :: message.toList) := by
  have hword : ':' ∉ code.word.toList := by
    cases code <;> decide
  refine Text.splitFirst?_eq_some_iff.2 ⟨?_, hword⟩
  simp [text]

/-- An error text has one code only. -/
theorem text_unique {code code' : ErrorCode} {message message' : String}
    (h : code.text message = code'.text message') : code = code' := by
  have hsplit := code.splitFirst?_text message
  rw [h, splitFirst?_text] at hsplit
  exact (word_injective (String.toList_inj.1 (Prod.mk.inj (Option.some.inj hsplit)).1)).symm

end ErrorCode

/-! ## Envelopes -/

namespace Envelope

/-- The parts of an envelope go together. -/
structure WellFormed (e : Envelope) : Prop where
  /-- It is ok if and only if there are data, if and only if there is no error, if and only if the
  error has no code. -/
  data : e.ok = true ↔ e.data.isSome = true
  error : e.ok = true ↔ e.error = none
  kind : e.ok = true ↔ e.kind = none
  /-- One that is not ok warns of nothing, is not cut off, and says its code before its message. -/
  failed : e.ok = false → e.warnings = [] ∧ e.truncated = false ∧
    ∃ code message, e.kind = some code ∧ e.error = some (code.word ++ ": " ++ message)
  /-- One that is cut off answers a search for strings. -/
  truncated : e.truncated = true → e.ok = true ∧ e.query = Operation.searchStrings.name
  /-- The status is that of success for what is ok, and else that of the code in the error text. -/
  succeeds : e.status = 200 ↔ e.ok = true
  status : ∀ (code : ErrorCode) (message : String),
    e.error = some (code.word ++ ": " ++ message) → e.status = code.status

variable {query : String} {args : Json}

theorem wellFormed_success {out : Output}
    (h : out.truncated = true → query = Operation.searchStrings.name) :
    (success query args out).WellFormed where
  data := by simp [success]
  error := by simp [success]
  kind := by simp [success]
  failed hok := nomatch hok
  truncated htrunc := ⟨rfl, h htrunc⟩
  succeeds := by simp [success, status]
  status code message herror := nomatch herror

/-- An envelope with nothing in it but an error is well formed. -/
theorem wellFormed_refusal (query : String) (args : Json) (code : ErrorCode) (message : String) :
    (Envelope.mk false query args none (some (code.text message)) [] false (some code)).WellFormed
    where
  data := by simp
  error := by simp
  kind := by simp
  failed _ := ⟨rfl, rfl, code, message, rfl, rfl⟩
  truncated htrunc := nomatch htrunc
  succeeds := by
    cases code <;> simp [Envelope.status]
  status code' message' herror := by
    obtain rfl : code = code' := ErrorCode.text_unique (Option.some.inj herror)
    cases code <;> rfl

theorem wellFormed_failure (query : String) (args : Json) (f : Failure) :
    (failure query args f).WellFormed := wellFormed_refusal query args f.code f.message

end Envelope

/-! ## Answers that are cut off -/

namespace Session

variable (s : Session) (e : Engine) (files : Files.Tree)

theorem decompileClass_complete (t : TypeId) :
    Yields (fun out => out.truncated = false) (s.decompileClass e t files).1 := by
  unfold decompileClass
  split
  · exact .error _
  · split
    · exact .ok rfl
    · split
      · exact .error _
      · exact .ok rfl

theorem decompileMethod_complete (m : MethodId) :
    Yields (fun out => out.truncated = false) (s.decompileMethod e m files).1 := by
  unfold decompileMethod
  split
  · exact .error _
  · split
    · exact .error _
    · split
      · exact .error _
      · exact .ok rfl

/-- **Only a search for strings is cut off.** -/
theorem runOn_complete {r : Request} (h : r.operation ≠ .searchStrings) :
    Yields (fun out => out.truncated = false) (s.runOn e files r).answer := by
  cases r with
  | searchStrings q => exact absurd rfl h
  | listTypes | listMethods t | listFields t | hierarchy t =>
    exact .bind _ fun _ => .bind _ fun _ => .ok rfl
  | listPackages | dependencies t | listMethodsDetail t | annotations target | xrefsTo m
  | xrefsFrom m | fieldXrefs f | classXrefs t | overrides m | unresolved m | manifest
  | listResources | resourceContent name | errorReport => exact .bind _ fun _ => .ok rfl
  | decompileClass t => exact s.decompileClass_complete e files t
  | decompileMethod m => exact s.decompileMethod_complete e files m
  | rename id name => exact .ofStore _ fun _ => rfl
  | removeRename id => exact .ofStore _ fun _ => rfl
  | listRenames => exact .ofStore _ fun _ => rfl
  | sessionInfo => exact .ok rfl

end Session

/-! ## The service -/

namespace Service

variable (v : Service)

theorem wellFormed_dispatch (id method : String) (args : Json) :
    (v.dispatch id method args).1.WellFormed := by
  simp only [dispatch]
  cases hcall : (v.call id method args).1 with
  | error f => exact Envelope.wellFormed_failure method args f
  | ok out =>
    refine Envelope.wellFormed_success fun htrunc => ?_
    obtain ⟨r, p, s, hr, -, hrun⟩ := request_of_call_eq_ok hcall
    obtain ⟨e, hanswer⟩ := Session.answer_of_run_eq_ok v.files hrun
    have hsearch : r.operation = .searchStrings := by
      by_contra hne
      rw [(s.touch v.clock).runOn_complete e v.files hne out hanswer] at htrunc
      cases htrunc
    rw [← Request.name_of_ofCall hr, hsearch]

theorem wellFormed_loadArtifact (args : Json) : (v.loadArtifact args).1.WellFormed := by
  unfold loadArtifact
  split
  · exact Envelope.wellFormed_failure ..
  · split
    · exact Envelope.wellFormed_failure ..
    · split
      · exact Envelope.wellFormed_failure ..
      · exact Envelope.wellFormed_success nofun

theorem wellFormed_closeSession (args : Json) : (v.closeSession args).1.WellFormed := by
  unfold closeSession
  split
  · exact Envelope.wellFormed_failure ..
  · exact Envelope.wellFormed_success nofun

theorem wellFormed_listSessions (args : Json) : (v.listSessions args).WellFormed :=
  Envelope.wellFormed_success nofun

end Service

/-! ## The transports -/

namespace Agent

theorem wellFormed_callOperation (v : Service) (name : String) (args : Arguments) :
    (callOperation v name args).1.WellFormed := by
  unfold callOperation
  split
  · exact Envelope.wellFormed_failure ..
  · split
    · exact Envelope.wellFormed_failure ..
    · exact v.wellFormed_dispatch ..

theorem wellFormed_call (v : Service) (name : String) (args : Arguments) :
    (call v name args).1.WellFormed := by
  unfold call
  split
  · exact v.wellFormed_loadArtifact _
  · split
    · exact v.wellFormed_closeSession _
    · split
      · exact v.wellFormed_listSessions _
      · exact wellFormed_callOperation v name args

end Agent

namespace Rest

theorem wellFormed_noRoute (method path : String) : (noRoute method path).WellFormed := by
  have htext : "NOT_FOUND: no route for " ++ method ++ " " ++ path =
      ErrorCode.notFound.text ("no route for " ++ method ++ " " ++ path) := by
    rw [← String.toList_inj]
    simp [ErrorCode.text, ErrorCode.word]
  rw [noRoute, htext]
  exact Envelope.wellFormed_refusal path noArgs .notFound _

theorem wellFormed_callNamed (v : Service) (args : Json) :
    (callNamed v args).1.WellFormed := by
  unfold callNamed
  split
  · exact Envelope.wellFormed_failure ..
  · split
    · exact Envelope.wellFormed_failure ..
    · split
      · exact Envelope.wellFormed_failure ..
      · exact v.wellFormed_dispatch ..

theorem wellFormed_callRoute (v : Service) (method path id : String) (route : List String)
    (args : Json) : (callRoute v method path id route args).1.WellFormed := by
  unfold callRoute
  split
  · exact v.wellFormed_dispatch ..
  · exact wellFormed_noRoute method path

theorem wellFormed_route (v : Service) (method path : String) (args : Json) :
    (route v method path args).1.WellFormed := by
  unfold route
  split
  · split
    · exact Envelope.wellFormed_success nofun
    · exact Envelope.wellFormed_success nofun
    · exact v.wellFormed_listSessions args
    · exact wellFormed_noRoute method path
  · split
    · split
      · exact v.wellFormed_loadArtifact args
      · exact wellFormed_callNamed v args
      · exact v.wellFormed_closeSession _
      · exact wellFormed_callRoute ..
      · exact wellFormed_noRoute method path
    · exact wellFormed_noRoute method path

theorem wellFormed_handle (v : Service) (method path : String) (body : ByteArray) :
    (handle v method path body).1.WellFormed := by
  unfold handle
  split
  · exact Envelope.wellFormed_failure ..
  · exact wellFormed_route v method path _

end Rest

/-- **Every answer is a well-formed envelope**: of every tool with whatever arguments, and of every
request over HTTP with whatever method, path and bytes, in every state of the service. -/
theorem Service.answers_wellFormed (v : Service) :
    (∀ (name : String) (args : Arguments), (Agent.call v name args).1.WellFormed) ∧
      ∀ (method path : String) (body : ByteArray), (Rest.handle v method path body).1.WellFormed :=
  ⟨Agent.wellFormed_call v, Rest.wellFormed_handle v⟩

end DexQuery
