import DexQuery.Proofs.Answer.Overlay
import DexQuery.Proofs.Service.Lifecycle
import DexQuery.Proofs.Session.Known
import Mathlib.Data.List.Forall2

/-!
# What is listed can be asked about

The descriptors in the lists of types, methods and fields are meant to be passed on to other calls.
That works for every export whose names the descriptor grammar can carry, however often a raw name
or a signature occurs in it: a listed descriptor is read as what it has been listed for, and every
operation that takes it finds it, now or at any later time at which the session is still open
(`Service.listsUsable_of_load`).

Three things have to meet for this, and each has its own module: reading undoes writing, what a type
declares is found by its identifier, and what is found is answered. Here it remains that a session
keeps its engine for as long as it is open.
-/

namespace DexQuery

/-! ## Sessions keep their engines -/

/-- `s'` is the session `s` some time later: it has the engine it had, or none any more. -/
structure Session.Later (s s' : Session) : Prop where
  id : s'.id = s.id
  engine : s'.engine = s.engine ∨ s'.engine = none

namespace Session.Later

variable {s s' s'' : Session}

theorem refl (s : Session) : s.Later s := ⟨rfl, .inl rfl⟩

theorem trans (h : s.Later s') (h' : s'.Later s'') : s.Later s'' := by
  refine ⟨h'.id.trans h.id, ?_⟩
  rcases h'.engine with he | he
  · rw [he]
    exact h.engine
  · exact .inr he

theorem of_sameStage (h : s.SameStage s') : s.Later s' := ⟨h.id, .inl h.engine⟩

theorem close (s : Session) : s.Later s.close := ⟨rfl, .inr rfl⟩

end Session.Later

namespace Service

variable {v w : Service} {p : Nat} {s : Session} {id : String} {a : Export.Artifact}

theorem later_close (hs : v.session? p = some s) (id : String) :
    ∃ s', (v.close id).2.session? p = some s' ∧ s.Later s' := by
  by_cases hp : v.place? id = some p
  · exact ⟨s.close, session?_close_self hp hs, .close s⟩
  · exact ⟨s, (session?_close_of_ne hp).trans hs, .refl s⟩

theorem later_closeEach (hs : v.session? p = some s) (ids : List String) :
    ∃ s', (ids.foldl (fun v id => (v.close id).2) v).session? p = some s' ∧ s.Later s' := by
  induction ids generalizing v s with
  | nil => exact ⟨s, hs, .refl s⟩
  | cons id ids ih =>
    obtain ⟨s', hs', hlater⟩ := later_close hs id
    obtain ⟨s'', hs'', hlater'⟩ := ih hs'
    exact ⟨s'', hs'', hlater.trans hlater'⟩

/-- A session is still there after a command, as itself. -/
theorem later_perform (hs : v.session? p = some s) (c : Command) :
    ∃ s', (v.perform c).session? p = some s' ∧ s.Later s' := by
  have hkeeps : ∀ {v' : Service}, v.Keeps v' → ∃ s', v'.session? p = some s' ∧ s.Later s' := by
    intro v' hk
    obtain ⟨s', hs', hstage⟩ := hk.sessions p s hs
    exact ⟨s', hs', .of_sameStage hstage⟩
  cases c with
  | load path settings => exact ⟨s, Consistent.session_load rfl hs, .refl s⟩
  | dispatch id method args => exact hkeeps (keeps_call v id method args)
  | held place r => exact hkeeps (keeps_runAt v place r)
  | close id => exact later_close hs id
  | closeAll => exact later_closeEach hs _
  | change files => exact ⟨s, hs, .refl s⟩

theorem later_performAll (hs : v.session? p = some s) (cs : List Command) :
    ∃ s', (v.performAll cs).session? p = some s' ∧ s.Later s' := by
  induction cs generalizing v s with
  | nil => exact ⟨s, hs, .refl s⟩
  | cons c cs ih =>
    obtain ⟨s', hs', hlater⟩ := later_perform hs c
    obtain ⟨s'', hs'', hlater'⟩ := ih hs'
    exact ⟨s'', hs'', hlater.trans hlater'⟩

/-! ## Services that serve an export -/

/-- The id leads to an open session about the export. -/
def Serves (v : Service) (id : String) (a : Export.Artifact) : Prop :=
  ∃ p s rows, v.found? id = some (p, s) ∧ s.engine = some a.engine ∧ s.aliases.rows = .ok rows

/-- A session about an export serves it for as long as its id is registered. -/
theorem Consistent.serves (h : v.Consistent) {s₀ : Session} (hs : v.session? p = some s)
    (hlater : s₀.Later s) (hengine : s₀.engine = some a.engine) (hopen : v.place? s₀.id ≠ none) :
    v.Serves s₀.id a := by
  obtain ⟨q, hq⟩ := Option.ne_none_iff_exists'.1 hopen
  obtain ⟨t, ht, hid, hlive⟩ := h.live_of_place hq
  obtain rfl : q = p := h.place_unique ht hs (hid.trans hlater.id.symm)
  obtain rfl := Option.some.inj (ht.symm.trans hs)
  obtain ⟨rows, hrows⟩ := hlive.rows
  refine ⟨q, t, rows, found?_eq_some_iff.2 ⟨hq, ht⟩, ?_, hrows⟩
  rcases hlater.engine with he | hnone
  · exact he.trans hengine
  · have hsome := hlive.engine
    rw [hnone] at hsome
    cases hsome

/-- A call on an open session about an export is answered by the engine of the export. -/
theorem Serves.dispatch (h : v.Serves id a) {method : String} {args : Json} {r : Request}
    (hr : Request.ofCall method args = .ok r) :
    ∃ (s : Session) (rows : List (String × Label)), s.aliases.rows = .ok rows ∧
      (v.dispatch id method args).1 = .ofResult method args
        ((s.runOn a.engine v.files r).answer.mapError Abort.failure) := by
  obtain ⟨p, s, rows, hfound, hengine, hrows⟩ := h
  refine ⟨s.touch v.clock, rows, hrows, ?_⟩
  have hrun := Session.run_of_engine (s := s.touch v.clock) hengine v.files r
  simp only [Service.dispatch, call_of_found hr hfound, hrun]

/-- A call about something that the export knows succeeds. -/
theorem Serves.answered (h : w.Serves id a) {x : EntityId} (hknown : a.Knows x) {method : String}
    {args : Json} {r : Request} (hr : Request.ofCall method args = .ok r)
    (hx : r.about? = some x) :
    ∃ out, (w.dispatch id method args).1 = .success method args out := by
  obtain ⟨s, rows, hrows, hdispatch⟩ := h.dispatch hr
  obtain ⟨out, hout⟩ := Session.runOn_of_known w.files hrows hx hknown
  exact ⟨out, by rw [hdispatch, hout]; rfl⟩

/-- A call of an operation that succeeds gives what the engine answers to a request of it. -/
theorem Serves.request_of_ok (h : v.Serves id a) {op : Operation} {args : Json}
    (hok : (v.dispatch id op.name args).1.ok = true) :
    ∃ (s : Session) (rows : List (String × Label)) (r : Request) (out : Output),
      s.aliases.rows = .ok rows ∧ r.operation = op ∧
        (s.runOn a.engine v.files r).answer = .ok out ∧
          (v.dispatch id op.name args).1.data = some out.data := by
  cases hr : Request.ofCall op.name args with
  | error f =>
    simp only [Service.dispatch, call_of_unread hr] at hok
    cases hok
  | ok r =>
    obtain ⟨s, rows, hrows, hdispatch⟩ := h.dispatch hr
    cases hout : (s.runOn a.engine v.files r).answer with
    | error f =>
      rw [hdispatch, hout] at hok
      cases hok
    | ok out =>
      refine ⟨s, rows, r, out, hrows, Request.operation_of_ofCall hr, hout, ?_⟩
      rw [hdispatch, hout]
      rfl

/-! ## Items that can be passed on -/

/-- The id of the item is the descriptor of the entity. It is read as that, and every operation that
takes it knows what it is about: no call with it fails as not found, and a call with nothing else
succeeds. -/
structure Offers (w : Service) (id : String) (item : Json) (x : EntityId) : Prop where
  shown : item.member? "id" = some (.string x.text)
  readFrom : x.ReadFrom x.text
  known : ∀ (op : Operation) (args : Json), op.takes x.argument = true →
    args.member? x.argument = some (.string x.text) →
      (w.dispatch id op.name args).1.kind ≠ some .notFound
  answered : ∀ op : Operation, op.takes x.argument = true →
    (w.dispatch id op.name (.ofMembers [(x.argument, .string x.text)])).1.ok = true

/-- What the export declares is offered by the item that shows it. -/
theorem Serves.offers (h : w.Serves id a) (ha : a.WellNamed) {x : EntityId} (hx : a.Declares x)
    {item : Json} (hitem : item.member? "id" = some (.string x.text)) : w.Offers id item x where
  shown := hitem
  readFrom := hx.readFrom ha
  known op args hop hargs := by
    cases hr : Request.ofCall op.name args with
    | error f =>
      have hcode := (Request.ofCall_eq_error_iff.1 hr).code
      simp only [Service.dispatch, call_of_unread hr, Envelope.ofResult, Envelope.failure, hcode]
      exact nofun
    | ok r =>
      have habout := Request.about?_of_ofCall (hx.readFrom ha) hop hargs hr
      obtain ⟨out, hout⟩ := h.answered hx.known hr habout
      rw [hout]
      exact nofun
  answered op hop := by
    obtain ⟨r, hr⟩ := Request.exists_ofCall (hx.readFrom ha) hop
    have hargs : (Json.ofMembers [(x.argument, .string x.text)]).member? x.argument =
        some (.string x.text) := Keyed.get?_insert_self ..
    have habout := Request.about?_of_ofCall (hx.readFrom ha) hop hargs hr
    obtain ⟨out, hout⟩ := h.answered hx.known hr habout
    rw [hout]
    rfl

/-! ## Lists of items -/

/-- The items of a list in the data of an envelope. -/
def listed (env : Envelope) (key : String) : List Json :=
  match env.data.bind (Json.member? key) with
  | some (.array items) => items
  | _ => []

/-- The envelope names a type of the export and lists its members one by one, each with an item that
offers it and shows what else is to be shown of it. -/
def ListsMembers {α : Type} (w : Service) (id : String) (a : Export.Artifact)
    (members : Export.Entry → List α) (entity : TypeId → α → EntityId)
    (shown : α → List (String × Json)) (env : Envelope) (key : String) : Prop :=
  ∃ (t : TypeId) (e : Export.Entry), a.entry? t.raw = some e ∧
    env.data.bind (Json.member? "type_id") = some (.string t.text) ∧
      List.Forall₂ (fun item m => w.Offers id item (entity t m) ∧
        ∀ k x, (k, x) ∈ shown m → item.member? k = some x) (listed env key) (members e)

/-- What the service `v` lists of the export, the service `w` offers: all types, up to order, and
for a type its methods, be it shortly or with details, and its fields. The list of types is always
to be had, and the others are to be had for the types in it. -/
structure ListsUsable (v w : Service) (id : String) (a : Export.Artifact) : Prop where
  lists : ∀ members, (v.dispatch id "list_types" (.object members)).1.ok = true
  types : ∀ args, (v.dispatch id "list_types" args).1.ok = true →
    ∃ ts : List TypeSummary, ts.Perm (a.types.map (·.summary)) ∧
      List.Forall₂ (fun item t => w.Offers id item (.type ⟨t.rawName⟩) ∧
        item.member? "full_name" = some (.string (TypeId.mk t.rawName).dotted))
        (listed (v.dispatch id "list_types" args).1 "types") ts
  methods : ∀ args, (v.dispatch id "list_methods" args).1.ok = true →
    w.ListsMembers id a (fun e => e.methods.map (·.model)) (fun t m => .method (m.id t))
      (fun m => [("name", .string m.name)]) (v.dispatch id "list_methods" args).1 "methods"
  details : ∀ args, (v.dispatch id "list_methods_detail" args).1.ok = true →
    w.ListsMembers id a (fun e => e.methods.map (·.model)) (fun t m => .method (m.id t))
      (fun m => [("name", .string m.name), ("arguments", .strings m.arguments),
        ("return_type", .string m.returnType)])
      (v.dispatch id "list_methods_detail" args).1 "methods"
  fields : ∀ args, (v.dispatch id "list_fields" args).1.ok = true →
    w.ListsMembers id a (fun e => e.fields.map (·.model)) (fun t f => .field (f.id t))
      (fun f => [("name", .string f.name), ("type", .string f.type)])
      (v.dispatch id "list_fields" args).1 "fields"

theorem member?_answer {s : Session} {ms : List (String × Json)} {k : String} {x : Json}
    (h : (k, x) ∈ ms) (hkeys : ("session_id" :: "provenance" :: Keyed.keys ms).Nodup) :
    (s.answer ms).member? k = some x :=
  Keyed.get?_ofList_of_mem hkeys (List.mem_cons_of_mem _ (List.mem_cons_of_mem _ h))

theorem listed_of_answer {env : Envelope} {s : Session} {ms : List (String × Json)} {key : String}
    {items : List Json} (hdata : env.data = some (s.answer ms)) (h : (key, .array items) ∈ ms)
    (hkeys : ("session_id" :: "provenance" :: Keyed.keys ms).Nodup) : listed env key = items := by
  simp only [listed, hdata, Option.bind_some, member?_answer h hkeys]

/-- What the engine answers about the members of a type is listed, if every item shows the id of its
member and what else is to be shown of it. -/
theorem Serves.listsMembers {α : Type} (h : w.Serves id a) (ha : a.WellNamed)
    {members : Export.Entry → List α} {entity : TypeId → α → EntityId}
    {shown : α → List (String × Json)} {env : Envelope} {key : String} {s : Session}
    {entry : α → Json} {t : TypeId} {missing : Failure} {out : Output}
    (hkey : ["session_id", "provenance", "type_id", key].Nodup)
    (hdeclares : ∀ e, a.entry? t.raw = some e → ∀ m ∈ members e, a.Declares (entity t m))
    (hentry : ∀ m k x, (k, x) ∈ ("id", .string (entity t m).text) :: shown m →
      (entry m).member? k = some x)
    (hout : (askKnown missing (.ok ((a.entry? t.raw).map members)) >>= fun ms =>
      pure (.plain (s.answer [("type_id", .string t.text), (key, .listOf entry ms)]))) = .ok out)
    (hdata : env.data = some out.data) : w.ListsMembers id a members entity shown env key := by
  cases he : a.entry? t.raw with
  | none =>
    rw [he] at hout
    cases hout
  | some e =>
    rw [he] at hout
    obtain rfl := Except.ok.inj hout
    have hitems : listed env key = (members e).map entry :=
      listed_of_answer hdata (List.mem_cons_of_mem _ (List.mem_cons_self ..)) hkey
    refine ⟨t, e, he, ?_, ?_⟩
    · rw [hdata]
      exact member?_answer (List.mem_cons_self ..) hkey
    · rw [hitems, List.forall₂_map_left_iff, List.forall₂_same]
      intro m hm
      exact ⟨h.offers ha (hdeclares e he m hm) (hentry m _ _ (List.mem_cons_self ..)),
        fun k x hmem => hentry m k x (List.mem_cons_of_mem _ hmem)⟩

/-! ## The four lists -/

variable {args : Json}

theorem ok_list_types (hv : v.Serves id a) (members : List (String × Json)) :
    (v.dispatch id "list_types" (.object members)).1.ok = true := by
  have hr : Request.ofCall "list_types" (.object members) = .ok .listTypes := rfl
  obtain ⟨s, rows, hrows, hdispatch⟩ := hv.dispatch hr
  rw [hdispatch]
  simp only [Session.runOn, Session.Result.pure, Session.listTypes, Session.labels_eq_ok hrows]
  rfl

theorem lists_types (hv : v.Serves id a) (hw : w.Serves id a) (ha : a.WellNamed)
    (hok : (v.dispatch id "list_types" args).1.ok = true) :
    ∃ ts : List TypeSummary, ts.Perm (a.types.map (·.summary)) ∧
      List.Forall₂ (fun item t => w.Offers id item (.type ⟨t.rawName⟩) ∧
        item.member? "full_name" = some (.string (TypeId.mk t.rawName).dotted))
        (listed (v.dispatch id "list_types" args).1 "types") ts := by
  obtain ⟨s, rows, r, out, hrows, hop, hout, hdata⟩ :=
    @Serves.request_of_ok v id a hv .listTypes args hok
  cases r with
  | listTypes =>
    simp only [Session.runOn, Session.Result.pure, Session.listTypes,
      Session.labels_eq_ok hrows] at hout
    obtain rfl := Except.ok.inj hout
    have hperm : (Session.sortedTypes (a.types.map (·.summary))).Perm (a.types.map (·.summary)) :=
      List.mergeSort_perm _ _
    have hitems : listed (v.dispatch id "list_types" args).1 "types" =
        (Session.sortedTypes (a.types.map (·.summary))).map (Session.typeEntry rows) :=
      listed_of_answer hdata (List.mem_cons_self ..) (by simp [Keyed.keys])
    refine ⟨_, hperm, ?_⟩
    rw [hitems, List.forall₂_map_left_iff, List.forall₂_same]
    intro t ht
    obtain ⟨e, he, rfl⟩ := List.mem_map.1 (hperm.mem_iff.1 ht)
    exact ⟨hw.offers ha (.type he) (Session.typeEntry_overlays.id rows _),
      Session.member?_of_mem (by simp [Keyed.keys]) (by simp)⟩
  | _ => cases hop

theorem lists_methods (hv : v.Serves id a) (hw : w.Serves id a) (ha : a.WellNamed)
    (hok : (v.dispatch id "list_methods" args).1.ok = true) :
    w.ListsMembers id a (fun e => e.methods.map (·.model)) (fun t m => .method (m.id t))
      (fun m => [("name", .string m.name)]) (v.dispatch id "list_methods" args).1 "methods" := by
  obtain ⟨s, rows, r, out, hrows, hop, hout, hdata⟩ :=
    @Serves.request_of_ok v id a hv .listMethods args hok
  cases r with
  | listMethods t =>
    simp only [Session.runOn, Session.Result.pure, Session.listMethods,
      Session.labels_eq_ok hrows] at hout
    refine hw.listsMembers ha (by decide) (fun e he m hm => ?_) (fun m k x hmem => ?_) hout hdata
    · obtain ⟨method, hmethod, rfl⟩ := List.mem_map.1 hm
      exact .method he hmethod
    · refine Session.member?_of_mem (by simp [Keyed.keys]) ?_
      simp only [List.mem_cons] at hmem ⊢
      tauto
  | _ => cases hop

theorem lists_details (hv : v.Serves id a) (hw : w.Serves id a) (ha : a.WellNamed)
    (hok : (v.dispatch id "list_methods_detail" args).1.ok = true) :
    w.ListsMembers id a (fun e => e.methods.map (·.model)) (fun t m => .method (m.id t))
      (fun m => [("name", .string m.name), ("arguments", .strings m.arguments),
        ("return_type", .string m.returnType)])
      (v.dispatch id "list_methods_detail" args).1 "methods" := by
  obtain ⟨s, rows, r, out, -, hop, hout, hdata⟩ :=
    @Serves.request_of_ok v id a hv .listMethodsDetail args hok
  cases r with
  | listMethodsDetail t =>
    refine hw.listsMembers ha (by decide) (fun e he m hm => ?_) (fun m k x hmem => ?_) hout hdata
    · obtain ⟨method, hmethod, rfl⟩ := List.mem_map.1 hm
      exact .method he hmethod
    · refine Keyed.get?_ofList_of_mem (by simp [Keyed.keys]) ?_
      simp only [List.mem_cons] at hmem ⊢
      tauto
  | _ => cases hop

theorem lists_fields (hv : v.Serves id a) (hw : w.Serves id a) (ha : a.WellNamed)
    (hok : (v.dispatch id "list_fields" args).1.ok = true) :
    w.ListsMembers id a (fun e => e.fields.map (·.model)) (fun t f => .field (f.id t))
      (fun f => [("name", .string f.name), ("type", .string f.type)])
      (v.dispatch id "list_fields" args).1 "fields" := by
  obtain ⟨s, rows, r, out, hrows, hop, hout, hdata⟩ :=
    @Serves.request_of_ok v id a hv .listFields args hok
  cases r with
  | listFields t =>
    simp only [Session.runOn, Session.Result.pure, Session.listFields,
      Session.labels_eq_ok hrows] at hout
    refine hw.listsMembers ha (by decide) (fun e he f hf => ?_) (fun f k x hmem => ?_) hout hdata
    · obtain ⟨field, hfield, rfl⟩ := List.mem_map.1 hf
      exact .field he hfield
    · refine Session.member?_of_mem (by simp [Keyed.keys]) ?_
      simp only [List.mem_cons] at hmem ⊢
      tauto
  | _ => cases hop

/-- What is served can be passed on, between any two states in which it is. -/
theorem Serves.listsUsable (hv : v.Serves id a) (hw : w.Serves id a) (ha : a.WellNamed) :
    v.ListsUsable w id a where
  lists members := ok_list_types hv members
  types _ hok := lists_types hv hw ha hok
  methods _ hok := lists_methods hv hw ha hok
  details _ hok := lists_details hv hw ha hok
  fields _ hok := lists_fields hv hw ha hok

/-! ## Exports that have been loaded -/

/-- A session that has been open at a later time is open. -/
theorem Consistent.isOpen_of_later (h : v.Consistent) {s₀ : Session} (hs : v.session? p = some s)
    (hlater : s₀.Later s) {cs : List Command}
    (hopen : (v.performAll cs).place? s₀.id ≠ none) : v.place? s₀.id ≠ none := by
  intro hnone
  rcases h.stages p s hs with ⟨hp, -⟩ | ⟨-, hdead⟩
  · rw [hlater.id, hnone] at hp
    cases hp
  · obtain ⟨t, ht⟩ := h.isClosed_performAll (h.isClosed_iff.2 ⟨hs, hdead⟩) cs
    obtain ⟨s', hs', hlater'⟩ := later_performAll hs cs
    obtain rfl := Option.some.inj (ht.session.symm.trans hs')
    exact hopen ((hlater.trans hlater').id ▸ ht.unknown)

/-- **What is listed can be asked about.** An export is loaded, whatever has gone before, and its
names are well formed, however often they are repeated. Then what any of the four lists shows of it,
at any time after the loading, is offered at any time after that at which the session is open. -/
theorem listsUsable_of_load {setup : Setup} (hids : Function.Injective setup.ids)
    (hfactory : setup.factory = Export.factory) {files : Files.Tree} {clock : Nat}
    {cs : List Command} {path : String} {settings : Settings} {s : Session} {bytes : ByteArray}
    (hload : ((start setup files clock).performAll cs).load path settings = (.ok s, v))
    (hbytes : ((start setup files clock).performAll cs).artifactBytes path = .ok bytes)
    (ha : Export.Artifact.read? bytes = some a) (hnames : a.WellNamed) (cs₁ cs₂ : List Command)
    (hopen : ((v.performAll cs₁).performAll cs₂).place? s.id ≠ none) :
    (v.performAll cs₁).ListsUsable ((v.performAll cs₁).performAll cs₂) s.id a := by
  have hbefore := (Consistent.start hids files clock).performAll cs
  have hafter : v.Consistent := by
    have hkept := hbefore.load path settings
    rwa [hload] at hkept
  obtain ⟨bytes', engine, count, files', hbytes', hengine, -, hs, rfl⟩ := load_ok hload
  obtain rfl := Except.ok.inj (hbytes.symm.trans hbytes')
  have hfactory' : ((start setup files clock).performAll cs).setup.factory = Export.factory := by
    rw [setup_performAll]
    exact hfactory
  have hread := engineOfBytes_of_buildEngine hfactory' hengine
  rw [Export.engineOfBytes, ha] at hread
  have hown : s.engine = some a.engine := by
    rw [hs, Except.ok.inj hread]
    rfl
  have hsession := session?_register_self
    { (start setup files clock).performAll cs with files := files' } s
  obtain ⟨s₁, hs₁, hlater₁⟩ := later_performAll hsession cs₁
  obtain ⟨s₂, hs₂, hlater₂⟩ := later_performAll hs₁ cs₂
  have h₁ := hafter.performAll cs₁
  have h₂ := h₁.performAll cs₂
  have hserves₁ := h₁.serves hs₁ hlater₁ hown (h₁.isOpen_of_later hs₁ hlater₁ hopen)
  have hserves₂ := h₂.serves hs₂ (hlater₁.trans hlater₂) hown hopen
  exact hserves₁.listsUsable hserves₂ hnames

/-! ### A sample -/

/-- An export with two types of one name, of which the second has a method twice and a field. -/
def repeatedExport : String :=
  let method := "\x7b\"name\":\"f\",\"arguments\":[\"I\"],\"return_type\":\"V\"\x7d"
  "\x7b\"engine_version\":\"1\",\"types\":[\x7b\"raw_name\":\"A\"\x7d," ++
    "\x7b\"raw_name\":\"A\",\"methods\":[" ++ method ++ "," ++ method ++
      "],\"fields\":[\x7b\"name\":\"x\",\"type\":\"J\"\x7d]\x7d]\x7d"

/-- Files among which there is the export under the name `a`. -/
def repeatedFiles : Files.Tree := ⟨[(["a"], .file repeatedExport.toUTF8)]⟩

/-- A service before that is loaded. -/
def repeating : Service := (start sampleSetup repeatedFiles 0).performAll []

/-- The service after it is loaded. -/
def repeatingLoaded : Service := (repeating.load "a" .default).2

/-- The service after the method has been given an alias as well. -/
def repeatingRenamed : Service :=
  repeatingLoaded.performAll [.dispatch "" "rename"
    (.object [("alias", .string "g"), ("id", .string "LA;->f(I)V")])]

/-- Types of one name and methods of one signature are listed as often as they occur, and can be
asked about. -/
theorem listsUsable_sample :
    Function.Injective sampleSetup.ids ∧ sampleSetup.factory = Export.factory ∧
      ∃ s a, repeating.load "a" .default = (.ok s, repeatingLoaded) ∧
        repeating.artifactBytes "a" = .ok repeatedExport.toUTF8 ∧
        Export.Artifact.read? repeatedExport.toUTF8 = some a ∧ a.WellNamed ∧
        repeatingRenamed.place? s.id ≠ none ∧
        repeatingLoaded.ListsUsable repeatingRenamed s.id a ∧ a.types.length = 2 ∧
        (listed (repeatingLoaded.dispatch s.id "list_methods"
          (.object [("type_id", .string "LA;")])).1 "methods").length = 2 := by
  have hid : (repeating.load "a" .default).1.map (·.id) = .ok "" := by decide +kernel
  have hbytes : repeating.artifactBytes "a" = .ok repeatedExport.toUTF8 := by rfl
  have hread : (Export.Artifact.read? repeatedExport.toUTF8).map
      (fun a => (decide a.WellNamed, a.types.length)) = some (true, 2) := by decide +kernel
  have hrun : repeatingRenamed.place? "" = some 0 ∧
      (listed (repeatingLoaded.dispatch "" "list_methods"
        (.object [("type_id", .string "LA;")])).1 "methods").length = 2 := by decide +kernel
  obtain ⟨a, ha, hpair⟩ := Option.map_eq_some_iff.1 hread
  obtain ⟨hnames, hlength⟩ := Prod.mk.inj hpair
  cases hs : (repeating.load "a" .default).1 with
  | error f =>
    rw [hs] at hid
    cases hid
  | ok s =>
    rw [hs] at hid
    obtain hid : s.id = "" := Except.ok.inj hid
    have hload : ((start sampleSetup repeatedFiles 0).performAll []).load "a" .default =
      (.ok s, repeatingLoaded) := Prod.ext hs rfl
    have hopen : repeatingRenamed.place? s.id ≠ none := by
      rw [hid, hrun.1]
      exact nofun
    have husable := listsUsable_of_load sampleSetup_ids rfl hload hbytes ha
      (of_decide_eq_true hnames) [] _ hopen
    rw [← hid] at hrun
    exact ⟨sampleSetup_ids, rfl, s, a, hload, hbytes, ha, of_decide_eq_true hnames, hopen, husable,
      hlength, hrun.2⟩

end Service
end DexQuery
