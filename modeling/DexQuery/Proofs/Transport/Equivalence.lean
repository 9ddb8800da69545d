import DexQuery.Proofs.Keyed
import DexQuery.Proofs.Operation.Reading
import DexQuery.Proofs.Service.Lifecycle
import DexQuery.Proofs.Transport.Address
import DexQuery.Transport.Agent

/-!
# One call through all transports

An operation can be called on a session by its name, as a tool, by a named call over HTTP, and at an
address below that of the session. All of these are the same call, with the same answer and the same
service after it (`transports_agree`).

What a `POST` below the address of a session does is told by the segments behind the id
(`Rest.handle_below`): those of the route of an operation call it, the one of closing closes the
session, and with any others nothing happens.
-/

namespace DexQuery

variable {v : Service} {op : Operation} {id path : String} {args : Arguments} {body : ByteArray}
  {rest : List String} {j : Json}

/-! ## Tools -/

theorem Operation.name_not_reserved (op : Operation) :
    op.name ≠ Service.loadName ∧ op.name ≠ Service.closeName ∧ op.name ≠ Service.listName := by
  cases op <;> decide

/-- The tool of an operation is called on the session whose id is among the arguments. -/
theorem Agent.call_name (v : Service) (op : Operation)
    (hargs : Keyed.get? "session_id" args = none) (id : String) :
    Agent.call v op.name (Keyed.insert "session_id" (.string id) args) =
      v.dispatch id op.name (.object args) := by
  obtain ⟨hload, hclose, hlist⟩ := op.name_not_reserved
  have htext : Arguments.text? (Keyed.insert "session_id" (.string id) args) "session_id" =
      some id := by
    simp only [Arguments.text?, Keyed.get?_insert_self, Option.bind_some, Json.asString?]
  simp only [call, hload, hclose, hlist, if_false, callOperation, Request.resolve_name, htext,
    Keyed.erase_insert_self, Keyed.erase_of_get?_eq_none hargs]

theorem Service.query_closeSession (v : Service) (j : Json) :
    (v.closeSession j).1.query = closeName := by
  unfold closeSession
  split <;> rfl

theorem Service.query_dispatch (v : Service) (id method : String) (j : Json) :
    (v.dispatch id method j).1.query = method := by
  simp only [dispatch]
  cases (v.call id method j).1 <;> rfl

namespace Rest

/-! ## Calls by name -/

theorem handle_of_body (hbody : readBody body = .ok j) (v : Service) (method path : String) :
    handle v method path body = route v method path j := by
  simp only [handle, hbody]

/-- A call by name is of the operation and on the session that the body names. -/
theorem handle_call (v : Service) (op : Operation) (hpath : segments path = ["v1", "call"])
    (hbody : readBody body = .ok (.ofMembers [("session_id", .string id),
      ("method", .string op.name), ("args", j)])) :
    handle v "POST" path body = v.dispatch id op.name j := by
  have hmember : ∀ name value, (name, value) ∈ [("session_id", Json.string id),
      ("method", .string op.name), ("args", j)] → (Json.ofMembers [("session_id", .string id),
        ("method", .string op.name), ("args", j)]).member? name = some value := by
    intro name value hmem
    exact Keyed.get?_ofList_of_mem (by decide : List.Nodup ["session_id", "method", "args"]) hmem
  have hid := hmember "session_id" (.string id) (by simp)
  have hmethod := hmember "method" (.string op.name) (by simp)
  have hargs := hmember "args" j (by simp)
  rw [handle_of_body hbody, route, if_neg (by decide), if_pos rfl, hpath]
  simp only [callNamed, Service.requiredText, hid, hmethod, hargs, Option.bind_some, Json.asString?,
    Request.resolve_name, Option.getD_some]

/-! ## Calls below the address of a session -/

theorem segments_name (op : Operation) : segments op.name = [op.name] := by
  cases op <;> decide +kernel

theorem segments_route_ne_close (op : Operation) : segments op.route ≠ ["close"] := by
  cases op <;> decide +kernel

theorem isSegment_of_below (hpath : segments path = "v1" :: "sessions" :: id :: rest) :
    ∀ s ∈ rest, IsSegment s := by
  intro s hs
  have hmem : s ∈ segments path := by
    rw [hpath]
    simp [hs]
  exact isSegment_of_mem_segments hmem

/-- The segments behind the id of a session close it or choose an operation. -/
theorem route_below (v : Service) (args : Json)
    (hpath : segments path = "v1" :: "sessions" :: id :: rest) :
    (rest = ["close"] ∧ route v "POST" path args =
        v.closeSession (.ofMembers [("session_id", .string id)])) ∨
      rest ≠ ["close"] ∧ route v "POST" path args = callRoute v "POST" path id rest args := by
  rw [route, if_neg (by decide), if_pos rfl, hpath]
  split
  · rename_i h
    simp at h
  · rename_i h
    simp at h
  · rename_i h
    obtain ⟨rfl, rfl⟩ : id = _ ∧ rest = ["close"] := by simpa using h
    exact .inl ⟨rfl, rfl⟩
  · rename_i hclose h
    obtain ⟨rfl, rfl⟩ : id = _ ∧ rest = _ := by simpa using h
    exact .inr ⟨hclose, rfl⟩
  · rename_i h
    exact absurd rfl (h id rest)

/-- **What a `POST` below a session does.** The segments of the route of an operation call it. -/
theorem handle_route (v : Service) (op : Operation)
    (hpath : segments path = "v1" :: "sessions" :: id :: segments op.route)
    (hbody : readBody body = .ok j) : handle v "POST" path body = v.dispatch id op.name j := by
  rw [handle_of_body hbody]
  rcases route_below v j hpath with ⟨hclose, -⟩ | ⟨-, hroute⟩
  · exact absurd hclose (segments_route_ne_close op)
  · rw [hroute, callRoute, (ofRoute?_intercalate_iff (isSegment_of_below hpath)).2 rfl]

theorem segments_address (op : Operation) (hid : IsSegment id) :
    segments ("/v1/sessions/" ++ id ++ "/" ++ op.route) =
      "v1" :: "sessions" :: id :: segments op.route := by
  have hbase : "/v1/sessions/" = "/v1/sessions" ++ "/" := by decide
  have hsegments : segments "/v1/sessions" = ["v1", "sessions"] := by decide +kernel
  rw [hbase, segments_append_slash, segments_append_slash, hsegments, segments_of_isSegment hid]
  rfl

/-- An answer with the name of an operation comes from the segments of its route. -/
theorem eq_of_query (hpath : segments path = "v1" :: "sessions" :: id :: rest)
    (hquery : (handle v "POST" path body).1.query = op.name) : rest = segments op.route := by
  have hother : path ≠ op.name := by
    rintro rfl
    rw [segments_name] at hpath
    simp at hpath
  cases hbody : readBody body with
  | error f =>
    simp only [handle, hbody] at hquery
    exact absurd hquery hother
  | ok j =>
    rw [handle_of_body hbody] at hquery
    rcases route_below v j hpath with ⟨-, hroute⟩ | ⟨-, hroute⟩
    · rw [hroute, Service.query_closeSession] at hquery
      exact absurd hquery.symm op.name_not_reserved.2.1
    · rw [hroute, callRoute] at hquery
      split at hquery
      · rename_i op' hop
        rw [Service.query_dispatch] at hquery
        obtain rfl := Request.name_injective hquery
        exact (ofRoute?_intercalate_iff (isSegment_of_below hpath)).1 hop
      · exact absurd hquery hother

end Rest

/-! ## All transports -/

/-- **A call is the same through all transports.** Calling an operation by its name, as a tool, by a
named call and at any address whose segments are those of its own gives the same answer and leaves
the same service, and there is such an address. Conversely an answer with the name of the operation
comes from no other address below a session. -/
theorem transports_agree (v : Service) (op : Operation)
    (hargs : Keyed.get? "session_id" args = none) (hid : id ≠ "") (hslash : '/' ∉ id.toList) :
    Agent.call v op.name (Keyed.insert "session_id" (.string id) args) =
        v.dispatch id op.name (.object args) ∧
      (∀ (path : String) (body : ByteArray), Rest.segments path = ["v1", "call"] →
        Rest.readBody body = .ok (.ofMembers [("session_id", .string id),
          ("method", .string op.name), ("args", .object args)]) →
        Rest.handle v "POST" path body = v.dispatch id op.name (.object args)) ∧
      (∀ (path : String) (body : ByteArray),
        Rest.segments path = "v1" :: "sessions" :: id :: Rest.segments op.route →
        Rest.readBody body = .ok (.object args) →
        Rest.handle v "POST" path body = v.dispatch id op.name (.object args)) ∧
      Rest.segments ("/v1/sessions/" ++ id ++ "/" ++ op.route) =
        "v1" :: "sessions" :: id :: Rest.segments op.route ∧
      ∀ (path : String) (body : ByteArray) (rest : List String),
        Rest.segments path = "v1" :: "sessions" :: id :: rest →
        (Rest.handle v "POST" path body).1.query = op.name → rest = Rest.segments op.route := by
  refine ⟨Agent.call_name v op hargs id, fun path body hpath hbody => ?_,
    fun path body hpath hbody => ?_, ?_, fun path body rest hpath hquery => ?_⟩
  · exact Rest.handle_call v op hpath hbody
  · exact Rest.handle_route v op hpath hbody
  · exact Rest.segments_address op ⟨hid, hslash⟩
  · exact Rest.eq_of_query hpath hquery

/-! ### A sample -/

namespace Service

/-- A service with one session, which has the id `"x"`. -/
def sampleOpen : Service :=
  ((start { sampleSetup with ids := fun n => String.ofList (List.replicate (n + 1) 'x') }
    sampleFiles 0).load "a" .default).2

/-- The arguments of a question about a type of the sample. -/
def sampleArgs : Arguments := [("type_id", .string "Lp/A;")]

end Service

namespace Rest

/-- The arguments of the sample as a body. -/
def sampleBody : ByteArray := "\x7b\"type_id\":\"Lp/A;\"\x7d".toUTF8

/-- A question about the type as the body of a call by name. -/
def sampleCall : ByteArray :=
  ("\x7b\"session_id\":\"x\",\"method\":\"list_methods_detail\"," ++
    "\"args\":\x7b\"type_id\":\"Lp/A;\"\x7d\x7d").toUTF8

theorem readBody_sampleBody : readBody sampleBody = .ok (.object Service.sampleArgs) := by
  with_unfolding_all rfl

-- The document comes first: unfolding everything does not get through the comparisons of its keys.
theorem readBody_sampleCall : readBody sampleCall = .ok (.ofMembers [("session_id", .string "x"),
    ("method", .string "list_methods_detail"), ("args", .object Service.sampleArgs)]) := by
  have hblank : sampleCall.toList.all isBlankByte = false := by decide +kernel
  have hdocument : Json.Document.read? sampleCall.toList =
      some (.object [(some "session_id", .string (some "x")),
        (some "method", .string (some "list_methods_detail")),
        (some "args", .object [(some "type_id", .string (some "Lp/A;"))])]) := by
    with_unfolding_all rfl
  simp only [readBody, hblank, Json.read?, hdocument, Bool.false_eq_true, if_false]
  rfl

end Rest

open Service in
/-- A question is answered through all transports alike, also where the address has empty pieces. -/
theorem transports_agree_sample :
    Agent.call sampleOpen "list_methods_detail"
        (Keyed.insert "session_id" (.string "x") sampleArgs) =
      sampleOpen.dispatch "x" "list_methods_detail" (.object sampleArgs) ∧
    Rest.handle sampleOpen "POST" "/v1/call" Rest.sampleCall =
      sampleOpen.dispatch "x" "list_methods_detail" (.object sampleArgs) ∧
    Rest.handle sampleOpen "POST" "//v1/sessions//x/methods/detail/" Rest.sampleBody =
      sampleOpen.dispatch "x" "list_methods_detail" (.object sampleArgs) ∧
    (sampleOpen.dispatch "x" "list_methods_detail" (.object sampleArgs)).1.ok = true := by
  have hargs : Keyed.get? "session_id" sampleArgs = none := by rfl
  have hname : Operation.listMethodsDetail.name = "list_methods_detail" := by rfl
  obtain ⟨htool, hcall, hroute, -⟩ := transports_agree sampleOpen .listMethodsDetail hargs
    (by decide : "x" ≠ "") (by decide)
  rw [hname] at htool hcall hroute
  refine ⟨htool, hcall "/v1/call" _ (by decide +kernel) Rest.readBody_sampleCall, ?_,
    by decide +kernel⟩
  exact hroute "//v1/sessions//x/methods/detail/" _ (by decide +kernel) Rest.readBody_sampleBody

end DexQuery
