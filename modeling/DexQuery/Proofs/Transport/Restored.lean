import DexQuery.Proofs.Json.Record
import DexQuery.Proofs.Operation.Checking
import DexQuery.Proofs.Transport.Envelope

/-!
# Envelopes are read back from their JSON form

An envelope is written as an object that leaves out what is absent, and read from one by looking up
its members (`Envelope.ofJson?_object_eq_some_iff`). What has been written is there to be looked up,
so the envelope is read back as it was, but for the code of its error, which is not written, and for
data that are null, which are read as absent (`Envelope.Ordered.restored`).

No answer has null for its data, and the objects in it are maps: the arguments are those of the call
and the data are put together from entries (`Session.runOn_definite`). So every answer of either
transport is read back; this and the rest is put together in `Service.envelopes_restored`.
-/

namespace DexQuery
namespace Envelope

open Json.Decode

variable {e : Envelope} {ms : List (String × Json)}

/-! ## What an object is read as -/

/-- The members of an object say what the envelope does. A member without a value, or null, is no
data and no error; warnings may be left out, and so may be whether the answer is cut off. -/
structure ReadFrom (ms : List (String × Json)) (e : Envelope) : Prop where
  ok : Keyed.get? "ok" ms = some (.bool e.ok)
  query : Keyed.get? "query" ms = some (.string e.query)
  args : Keyed.get? "args" ms = some e.args
  data : Arguments.said? ms "data" = e.data
  error : Arguments.said? ms "error" = e.error.map .string
  warnings : Keyed.get? "warnings" ms = some (.strings e.warnings) ∨
    Keyed.get? "warnings" ms = none ∧ e.warnings = []
  truncated : Keyed.get? "truncated" ms = some (.bool e.truncated) ∨
    Keyed.get? "truncated" ms = none ∧ e.truncated = false
  kind : e.kind = none

theorem said?_eq_none_iff {k : String} :
    Arguments.said? ms k = none ↔ Keyed.get? k ms = none ∨ Keyed.get? k ms = some .null := by
  rw [Arguments.said?_eq_none_iff, Arguments.Given]
  cases Keyed.get? k ms with
  | none => simp
  | some x => simp

theorem data_iff (h : (Json.object ms).Ordered) {y : Option Json} :
    (Fields.ofMembers (Json.membersHeight ms + 1) ms).withDefault "data" none (optional json) =
      some y ↔ Arguments.said? ms "data" = y := by
  cases y with
  | none => rw [optional_eq_none_iff, said?_eq_none_iff]
  | some y =>
    rw [optional_eq_some_iff, Arguments.said?_eq_some_iff]
    constructor
    · rintro ⟨x, hx, hne, hread⟩
      obtain rfl := Option.some.inj ((json_of_get? h hx).symm.trans hread)
      exact ⟨hx, hne⟩
    · rintro ⟨hy, hne⟩
      exact ⟨y, hy, hne, json_of_get? h hy⟩

theorem error_iff {n : Nat} {y : Option String} :
    (Fields.ofMembers n ms).withDefault "error" none (optional text) = some y ↔
      Arguments.said? ms "error" = y.map .string := by
  cases y with
  | none => rw [optional_eq_none_iff, Option.map_none, said?_eq_none_iff]
  | some y =>
    simp only [optional_eq_some_iff, text_eq_some_iff, Option.map_some,
      Arguments.said?_eq_some_iff]
    constructor
    · rintro ⟨_, hx, hne, rfl⟩
      exact ⟨hx, hne⟩
    · rintro ⟨hy, hne⟩
      exact ⟨_, hy, hne, rfl⟩

theorem args_iff (h : (Json.object ms).Ordered) {x : Json} :
    (Fields.ofMembers (Json.membersHeight ms + 1) ms).required "args" json = some x ↔
      Keyed.get? "args" ms = some x := by
  rw [required_eq_some_iff]
  constructor
  · rintro ⟨y, hy, hread⟩
    obtain rfl := Option.some.inj ((json_of_get? h hy).symm.trans hread)
    exact hy
  · intro hx
    exact ⟨x, hx, json_of_get? h hx⟩

theorem warnings_iff {ws : List String} :
    (Fields.ofMembers (Json.membersHeight ms + 1) ms).withDefault "warnings" [] (list text) =
      some ws ↔ Keyed.get? "warnings" ms = some (.strings ws) ∨
        Keyed.get? "warnings" ms = none ∧ ws = [] := by
  rw [withDefault_eq_some_iff, or_comm]
  refine or_congr_left ?_
  constructor
  · rintro ⟨x, hx, hread⟩
    rw [texts_eq_some_iff (height_lt_of_get? hx)] at hread
    rwa [← hread]
  · intro hx
    exact ⟨_, hx, (texts_eq_some_iff (height_lt_of_get? hx)).2 rfl⟩

theorem truncated_iff {n : Nat} {b : Bool} :
    (Fields.ofMembers n ms).withDefault "truncated" false bool = some b ↔
      Keyed.get? "truncated" ms = some (.bool b) ∨
        Keyed.get? "truncated" ms = none ∧ b = false := by
  simp only [withDefault_eq_some_iff, bool_eq_some_iff, exists_eq_right]
  exact or_comm

/-- **An object is read as the envelope that its members say**, and as no other. -/
theorem ofJson?_object_eq_some_iff (h : (Json.object ms).Ordered) :
    ofJson? (.object ms) = some e ↔ ReadFrom ms e := by
  rw [ofJson?, ofValue?, Json.height, decode]
  simp only [fields_toDocument (Json.ordered_object_iff.1 h).1, Option.bind_eq_bind,
    Option.bind_some, Option.bind_eq_some_iff, args_iff h, data_iff h, error_iff, warnings_iff,
    truncated_iff, required_eq_some_iff, bool_eq_some_iff, text_eq_some_iff, exists_eq_right,
    Option.pure_def, Option.some.injEq]
  constructor
  · rintro ⟨ok, hok, query, hquery, args, hargs, data, hdata, error, herror, warnings, hwarnings,
      truncated, htruncated, rfl⟩
    exact ⟨hok, hquery, hargs, hdata, herror, hwarnings, htruncated, rfl⟩
  · obtain ⟨ok, query, args, data, error, warnings, truncated, kind⟩ := e
    rintro ⟨hok, hquery, hargs, hdata, herror, hwarnings, htruncated, rfl⟩
    exact ⟨_, hok, _, hquery, _, hargs, _, hdata, _, herror, _, hwarnings, _, htruncated, rfl⟩

/-! ## What is read of an envelope -/

/-- The arguments and the data of the envelope are ordered. -/
structure Ordered (e : Envelope) : Prop where
  args : e.args.Ordered
  data : ∀ d, e.data = some d → d.Ordered

/-- Read from its JSON form, the envelope is what it was, with no code for its error. -/
def Restored (e : Envelope) : Prop := ofJson? e.toJson = some { e with kind := none }

/-- The members of the JSON form, in the order in which they are written. -/
def members (e : Envelope) : List (String × Json) :=
  [("ok", .bool e.ok), ("query", .string e.query), ("args", e.args)] ++
    (match e.data with
      | none => []
      | some d => [("data", d)]) ++
    (match e.error with
      | none => []
      | some m => [("error", .string m)]) ++
    [("warnings", .strings e.warnings), ("truncated", .bool e.truncated)]

theorem nodup_keys_members (e : Envelope) : (Keyed.keys e.members).Nodup := by
  obtain ⟨ok, query, args, data, error, warnings, truncated, kind⟩ := e
  cases data <;> cases error <;> simp [members, Keyed.keys]

theorem get?_members {k : String} {x : Json} (h : (k, x) ∈ e.members) :
    Keyed.get? k (Keyed.ofList e.members) = some x :=
  Keyed.get?_ofList_of_mem e.nodup_keys_members h

theorem ordered_toJson (h : e.Ordered) : e.toJson.Ordered := by
  refine Json.Ordered.ofMembers ?_
  obtain ⟨hargs, hdata⟩ := h
  cases hd : e.data <;> cases e.error <;> simp_all

/-- The members of an envelope say what it does. -/
theorem readFrom_members (h : e.data ≠ some .null) :
    ReadFrom (Keyed.ofList e.members) { e with kind := none } where
  ok := get?_members (by simp [members])
  query := get?_members (by simp [members])
  args := get?_members (by simp [members])
  data := by
    cases hd : e.data with
    | none =>
      refine said?_eq_none_iff.2 (.inl (Keyed.get?_ofList_of_not_mem ?_))
      cases herror : e.error <;> simp [members, hd, herror, Keyed.keys]
    | some d =>
      rw [Arguments.said?_eq_some_iff]
      exact ⟨get?_members (by simp [members, hd]), fun hnull => h (by rw [hd, hnull])⟩
  error := by
    cases herror : e.error with
    | none =>
      refine said?_eq_none_iff.2 (.inl (Keyed.get?_ofList_of_not_mem ?_))
      cases hd : e.data <;> simp [members, hd, herror, Keyed.keys]
    | some m =>
      exact Arguments.said?_eq_some_iff.2 ⟨get?_members (by simp [members, herror]), nofun⟩
  warnings := .inl (get?_members (by simp [members]))
  truncated := .inl (get?_members (by simp [members]))
  kind := rfl

/-- **An envelope is read back from its JSON form**, if its data are not null. -/
theorem Ordered.restored (h : e.Ordered) (hdata : e.data ≠ some .null) : e.Restored :=
  (ofJson?_object_eq_some_iff (ordered_toJson h)).2 (readFrom_members hdata)

/-- What is read is ordered, has no code for its error and no null for its data. -/
theorem ordered_of_ofJson? {j : Json} (h : ofJson? j = some e) :
    e.Ordered ∧ e.data ≠ some .null ∧ e.kind = none := by
  rw [ofJson?, ofValue?, decode] at h
  simp only [Option.bind_eq_bind, Option.bind_eq_some_iff, Option.pure_def, Option.some.injEq] at h
  obtain ⟨f, -, ok, -, query, -, args, hargs, data, hdata, error, -, warnings, -, truncated, -,
    rfl⟩ := h
  have hdefinite : ∀ d, data = some d → d.Definite := by
    rintro d rfl
    rw [Fields.withDefault] at hdata
    split at hdata
    · cases hdata
    · exact definite_of_optional hdata
  refine ⟨⟨?_, fun d hd => (hdefinite d hd).ordered⟩, fun hnull => ?_, rfl⟩
  · obtain ⟨doc, -, hread⟩ := Option.bind_eq_some_iff.1 hargs
    exact Json.ordered_of_value? doc hread
  · exact (hdefinite _ hnull).ne_null rfl

/-- What is read is read back. -/
theorem ofJson?_toJson_of_ofJson? {j : Json} (h : ofJson? j = some e) :
    ofJson? e.toJson = some e := by
  obtain ⟨hordered, hdata, hkind⟩ := ordered_of_ofJson? h
  have hrestored := hordered.restored hdata
  rwa [Restored, ← hkind] at hrestored

/-! ## Envelopes of answers -/

variable {query : String} {args : Json}

theorem restored_success {out : Output} (hargs : args.Ordered) (hdata : out.data.Definite) :
    (success query args out).Restored := by
  refine Ordered.restored ⟨hargs, ?_⟩ fun hnull => hdata.ne_null (Option.some.inj hnull)
  rintro _ ⟨⟩
  exact hdata.ordered

theorem restored_failure (hargs : args.Ordered) (f : Failure) :
    (failure query args f).Restored := Ordered.restored ⟨hargs, nofun⟩ nofun

end Envelope

namespace Service

variable (v : Service) {args : Json} (hargs : args.Ordered)
include hargs

theorem restored_dispatch (id method : String) : (v.dispatch id method args).1.Restored := by
  simp only [dispatch]
  cases hcall : (v.call id method args).1 with
  | error f => exact Envelope.restored_failure hargs f
  | ok out =>
    obtain ⟨r, p, s, -, -, hrun⟩ := request_of_call_eq_ok hcall
    obtain ⟨e, hanswer⟩ := Session.answer_of_run_eq_ok v.files hrun
    exact Envelope.restored_success hargs ((s.touch v.clock).runOn_definite e v.files r out hanswer)

theorem restored_loadArtifact : (v.loadArtifact args).1.Restored := by
  have hdata : ∀ s, (loadResult s).Definite := fun s =>
    .ofMembers (by simp [s.ordered_provenance])
  unfold loadArtifact
  split
  · exact Envelope.restored_failure hargs _
  · split
    · exact Envelope.restored_failure hargs _
    · split
      · exact Envelope.restored_failure hargs _
      · exact Envelope.restored_success hargs (hdata _)

theorem restored_closeSession : (v.closeSession args).1.Restored := by
  unfold closeSession
  split
  · exact Envelope.restored_failure hargs _
  · exact Envelope.restored_success hargs (.ofMembers (by simp))

theorem restored_listSessions : (v.listSessions args).Restored := by
  have hentry : ∀ s : Session, s.info.Ordered := fun s => s.definite_info.ordered
  exact Envelope.restored_success hargs (.ofMembers (by simp [Json.Ordered.listOf hentry]))

end Service

namespace Agent

theorem ordered_erase {args : Arguments} (h : (Json.object args).Ordered) (k : String) :
    (Json.object (Keyed.erase k args)).Ordered := by
  rw [Json.ordered_object_iff] at h ⊢
  exact ⟨h.1.erase k, fun m hm => h.2 m (List.mem_filter.1 hm).1⟩

theorem restored_call (v : Service) (name : String) {args : Arguments}
    (h : (Json.object args).Ordered) : (call v name args).1.Restored := by
  unfold call
  split
  · exact v.restored_loadArtifact h
  · split
    · exact v.restored_closeSession h
    · split
      · exact v.restored_listSessions h
      · unfold callOperation
        split
        · exact Envelope.restored_failure h _
        · split
          · exact Envelope.restored_failure h _
          · exact v.restored_dispatch (ordered_erase h _) _ _

end Agent

theorem InputKind.Holds.ordered {kind : InputKind} {v : Json} (h : kind.Holds v) : v.Ordered := by
  cases h <;> rfl

theorem Input.ordered_toJson {i : Input} (h : ∀ d, i.default = some d → d.Ordered) :
    i.toJson.Ordered := by
  refine .ofMembers ?_
  simp only [List.forall_mem_append]
  refine ⟨⟨by simp, by split <;> simp⟩, ?_⟩
  split
  · exact List.forall_mem_nil _
  · rename_i d hd
    exact List.forall_mem_singleton.2 (h d hd)

theorem Operation.definite_catalogue : catalogue.Definite := by
  refine .ofMembers (List.forall_mem_map.2 fun op _ => .ofMembers ?_)
  have hinputs : (Json.ofMembers (op.inputs.map fun i => (i.name, i.toJson))).Ordered :=
    .ofMembers (List.forall_mem_map.2 fun i hi =>
      Input.ordered_toJson fun _ hd => (holds_default hi hd).ordered)
  simp [hinputs]

namespace Rest

theorem ordered_noArgs : noArgs.Ordered := rfl

theorem restored_noRoute (method path : String) : (noRoute method path).Restored :=
  Envelope.Ordered.restored ⟨ordered_noArgs, nofun⟩ nofun

theorem restored_callNamed (v : Service) {args : Json} (h : args.Ordered) :
    (callNamed v args).1.Restored := by
  unfold callNamed
  split
  · exact Envelope.restored_failure h _
  · split
    · exact Envelope.restored_failure h _
    · split
      · exact Envelope.restored_failure h _
      · refine v.restored_dispatch ?_ _ _
        cases hargs : args.member? "args" with
        | none => exact ordered_noArgs
        | some x => exact Json.ordered_of_member? h hargs

theorem restored_callRoute (v : Service) (method path id : String) (route : List String)
    {args : Json} (h : args.Ordered) : (callRoute v method path id route args).1.Restored := by
  unfold callRoute
  split
  · exact v.restored_dispatch h _ _
  · exact restored_noRoute method path

theorem restored_route (v : Service) (method path : String) {args : Json} (h : args.Ordered) :
    (route v method path args).1.Restored := by
  unfold route
  split
  · split
    · exact Envelope.restored_success ordered_noArgs (.ofMembers (by simp))
    · exact Envelope.restored_success ordered_noArgs Operation.definite_catalogue
    · exact v.restored_listSessions h
    · exact restored_noRoute method path
  · split
    · split
      · exact v.restored_loadArtifact h
      · exact restored_callNamed v h
      · exact v.restored_closeSession (.ofMembers (by simp))
      · exact restored_callRoute v _ _ _ _ h
      · exact restored_noRoute method path
    · exact restored_noRoute method path

theorem ordered_of_readBody {body : ByteArray} {args : Json} (h : readBody body = .ok args) :
    args.Ordered := by
  simp only [readBody] at h
  split at h
  · cases h
    exact ordered_noArgs
  · split at h
    · rename_i j hread
      cases h
      obtain ⟨doc, -, hvalue⟩ := Option.bind_eq_some_iff.1 hread
      exact Json.ordered_of_value? doc hvalue
    · cases h

theorem restored_handle (v : Service) (method path : String) (body : ByteArray) :
    (handle v method path body).1.Restored := by
  unfold handle
  split
  · exact Envelope.restored_failure ordered_noArgs _
  · rename_i args hargs
    exact restored_route v method path (ordered_of_readBody hargs)

end Rest

/-- **Envelopes are read back from their JSON form.** Every envelope is that has ordered arguments
and data that are not null, and so is every answer of the service and of its transports. An object
is read as the envelope that its members say, with optional members left out or not; and an envelope
that has been read from any value at all is read back as it is. -/
theorem Service.envelopes_restored (v : Service) :
    (∀ e : Envelope, e.Ordered → e.data ≠ some .null → e.Restored) ∧
      (∀ ms e, (Json.object ms).Ordered →
        (Envelope.ofJson? (.object ms) = some e ↔ Envelope.ReadFrom ms e)) ∧
      (∀ j e, Envelope.ofJson? j = some e →
        e.kind = none ∧ Envelope.ofJson? e.toJson = some e) ∧
      (∀ id method args, args.Ordered → (v.dispatch id method args).1.Restored) ∧
      (∀ name args, (Json.object args).Ordered → (Agent.call v name args).1.Restored) ∧
      ∀ method path body, (Rest.handle v method path body).1.Restored :=
  ⟨fun _ h hdata => h.restored hdata, fun _ _ h => Envelope.ofJson?_object_eq_some_iff h,
    fun _ _ h => ⟨(Envelope.ordered_of_ofJson? h).2.2, Envelope.ofJson?_toJson_of_ofJson? h⟩,
    fun id method _ h => v.restored_dispatch h id method,
    fun name _ h => Agent.restored_call v name h, Rest.restored_handle v⟩

/-- A refusal, with an argument that is null. -/
def Envelope.sampleRefusal : Envelope :=
  .failure "list_methods" (.ofMembers [("type_id", .null)]) (.missingArgument "type_id")

/-- An object without the optional members but for data that are null. -/
def Envelope.sampleMembers : List (String × Json) :=
  [("args", .null), ("data", .null), ("ok", .bool true), ("query", .string "health")]

theorem Service.envelopes_restored_sample :
    Envelope.sampleRefusal.Restored ∧
      Envelope.ofJson? (.object Envelope.sampleMembers) =
        some ⟨true, "health", .null, none, none, [], false, none⟩ ∧
      Envelope.ofJson? (Envelope.mk true "health" .null none none [] false none).toJson =
        some ⟨true, "health", .null, none, none, [], false, none⟩ ∧
      (sample.dispatch "none" "get_manifest" .null).1.Restored ∧
      (Agent.call sample listName [("all", .bool true)]).1.Restored ∧
      (Rest.handle sample "GET" "/v1/methods" .empty).1.Restored := by
  obtain ⟨hrestored, hread, hagain, hdispatch, hcall, hhandle⟩ := envelopes_restored sample
  have hmembers : (Json.object Envelope.sampleMembers).Ordered :=
    Json.ordered_object_iff.2 ⟨by simp only [Keyed.Ascending, Envelope.sampleMembers]; decide,
      by simp [Envelope.sampleMembers]⟩
  have hsample := (hread Envelope.sampleMembers ⟨true, "health", .null, none, none, [], false, none⟩
    hmembers).2 ⟨rfl, rfl, rfl, rfl, rfl, .inr ⟨rfl, rfl⟩, .inr ⟨rfl, rfl⟩, rfl⟩
  have hrefusal : Envelope.sampleRefusal.data = none := rfl
  exact ⟨hrestored _ ⟨.ofMembers (by simp), by simp [hrefusal]⟩ (by simp [hrefusal]), hsample,
    (hagain _ _ hsample).2, hdispatch _ _ _ rfl,
    hcall _ _ (Json.ordered_object_iff.2 ⟨List.pairwise_singleton .., by simp⟩), hhandle _ _ _⟩

end DexQuery
