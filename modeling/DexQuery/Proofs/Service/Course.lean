import DexQuery.Proofs.Service.Isolation
import DexQuery.Proofs.Session.Recital

/-!
# Courses of sessions

A course is the time of a session in a service: the session is loaded from an export, and then
calls are made on it among all the other events of a run. What it is told in a course is its own
recital (`Course.told_eq_recital`), because the cache changes nothing but warnings and other
sessions are not seen.
-/

namespace DexQuery
namespace Service

variable {v : Service} {id : String} {p : Nat} {s t : Session} {es : List Event}

/-! ## The calls on a session -/

/-- The call on the session with the id that an event is. -/
def Event.callOn? (id : String) (e : Event) : Option (String × Json) :=
  match e.action with
  | .dispatch id' method args => if id' = id then some (method, args) else none
  | _ => none

/-- The calls on the session with the id, in order. -/
def calls (id : String) (es : List Event) : List (String × Json) := es.filterMap (·.callOn? id)

/-- The envelope that an answer is. -/
def Answer.envelope? : Answer → Option Envelope
  | .called envelope => some envelope
  | _ => none

/-- Whether an answer gives a session that has been loaded. -/
def Answer.isSession : Answer → Bool
  | .loaded (.ok _) => true
  | _ => false

theorem Answer.isSession_iff {a : Answer} : a.isSession = true ↔ ∃ s, a = .loaded (.ok s) := by
  constructor
  · intro h
    cases a with
    | loaded result =>
      cases result with
      | ok s => exact ⟨s, rfl⟩
      | error f => cases h
    | _ => cases h
  · rintro ⟨s, rfl⟩
    rfl

/-- The envelopes that answer the calls on the session with the id. -/
def told (id : String) (es : List Event) (as : List Answer) : List Envelope :=
  (answersFor id es as).filterMap Answer.envelope?

/-- Of the events none loads or closes the session with the id. -/
def OnlyCalls (id : String) (es : List Event) : Prop :=
  ∀ e ∈ es, e.isFor id = true → (e.callOn? id).isSome = true

instance (id : String) (es : List Event) : Decidable (OnlyCalls id es) :=
  inferInstanceAs (Decidable (∀ e ∈ es, e.isFor id = true → (e.callOn? id).isSome = true))

theorem Event.callOn?_of_not_isFor {e : Event} (h : e.isFor id = false) : e.callOn? id = none := by
  obtain ⟨now, fresh, a⟩ := e
  cases a with
  | dispatch id' method args =>
    refine if_neg ?_
    rintro rfl
    simp [isFor] at h
  | _ => rfl

/-- The first of the events is for other sessions, or a call. -/
theorem OnlyCalls.cons {e : Event} (h : OnlyCalls id (e :: es)) :
    (e.isFor id = false ∨
      ∃ now fresh method args, e = ⟨now, fresh, .dispatch id method args⟩) ∧ OnlyCalls id es := by
  obtain ⟨he, hlater⟩ := List.forall_mem_cons.1 h
  refine ⟨?_, hlater⟩
  cases hfor : e.isFor id with
  | false => exact .inl rfl
  | true =>
    obtain ⟨now, fresh, a⟩ := e
    cases a with
    | dispatch id' method args =>
      obtain rfl : id' = id := by simpa [Event.isFor] using hfor
      exact .inr ⟨now, fresh, method, args, rfl⟩
    | _ => cases he hfor

theorem told_cons_of_not_isFor {e : Event} (h : e.isFor id = false) (a : Answer)
    (as : List Answer) : told id (e :: es) (a :: as) = told id es as := by
  rw [told, answersFor, if_neg (by simp [h])]
  rfl

theorem told_cons_call (now : Nat) (fresh method : String) (args : Json) (envelope : Envelope)
    (as : List Answer) :
    told id (⟨now, fresh, .dispatch id method args⟩ :: es) (.called envelope :: as) =
      envelope :: told id es as := by
  rw [told, answersFor, if_pos (by simp [Event.isFor])]
  rfl

theorem calls_cons_of_not_isFor {e : Event} (h : e.isFor id = false) :
    calls id (e :: es) = calls id es :=
  List.filterMap_cons_none (e.callOn?_of_not_isFor h)

theorem calls_cons_call (now : Nat) (fresh method : String) (args : Json) :
    calls id (⟨now, fresh, .dispatch id method args⟩ :: es) = (method, args) :: calls id es :=
  List.filterMap_cons_some (if_pos rfl)

/-- Warnings are not among what is impersonal. -/
theorem map_impersonal_told {as as' : List Answer}
    (h : as.map Answer.silent = as'.map Answer.silent) :
    (told id es as).map Envelope.impersonal = (told id es as').map Envelope.impersonal := by
  have hview : (fun a : Answer => a.envelope?.map Envelope.impersonal) =
      (fun a => a.envelope?.map Envelope.impersonal) ∘ Answer.silent := by
    funext a
    cases a <;> rfl
  have hsilent : ∀ as : List Answer, (told id es as).map Envelope.impersonal =
      (answersFor id es (as.map Answer.silent)).filterMap
        fun a => a.envelope?.map Envelope.impersonal := by
    intro as
    rw [told, List.map_filterMap, ← map_answersFor, List.filterMap_map, ← hview]
  rw [hsilent, hsilent, h]

/-! ## One session without a cache -/

/-- A call on a session is answered by the session. -/
theorem fst_dispatchUncached (hf : v.found? id = some (p, t)) (method : String) (args : Json) :
    (v.dispatchUncached id method args).1 = ((t.touch v.clock).reply method args).1 := by
  simp only [dispatchUncached, Session.reply]
  cases hr : Request.ofCall method args with
  | error f =>
    rw [callUncached_of_unread hr]
    rfl
  | ok r => rw [callUncached_of_found hr hf]

/-- After a call on a session there is a twin of what a twin of the session is after it. -/
theorem found?_call (hf : v.found? id = some (p, t)) (h : s.Twin t) (now : Nat)
    (fresh method : String) (args : Json) :
    ∃ t', (step dispatchUncached v ⟨now, fresh, .dispatch id method args⟩).2.found? id =
        some (p, t') ∧ t'.engine = t.engine ∧ (s.reply method args).2.Twin t' := by
  have hdrawn : (v.drawing ⟨now, fresh, .dispatch id method args⟩).found? id = some (p, t) := hf
  simp only [step, act, dispatchUncached]
  cases hr : Request.ofCall method args with
  | error f =>
    rw [callUncached_of_unread hr]
    simp only [Session.reply, hr]
    exact ⟨t, hf, rfl, h⟩
  | ok r =>
    rw [callUncached_of_found hr hdrawn]
    obtain ⟨htwin, -⟩ := (h.touch now).reply method args
    obtain ⟨aliases, hsame⟩ := (t.touch now).runUncached_eq r
    have hengine : ((t.touch now).runUncached r).2.engine = t.engine := by
      rw [hsame]
      rfl
    simp only [Session.reply, hr] at htwin ⊢
    exact ⟨_, found?_setSession_self hf _, hengine, htwin⟩

/-- A session that is only called is found again, with its engine. -/
theorem found?_after (hv : v.Named) (hf : v.found? id = some (p, t)) {e : Engine}
    (he : t.engine = some e) (hes : OnlyCalls id es) :
    ∃ t', (after dispatchUncached v es).found? id = some (p, t') ∧ t'.engine = some e := by
  induction es generalizing v t with
  | nil => exact ⟨t, hf, he⟩
  | cons e es ih =>
    obtain ⟨hfor | ⟨now, fresh, method, args, rfl⟩, hlater⟩ := hes.cons
    · exact ih (hv.step e) ((hv.found?_step hfor).trans hf) he hlater
    · obtain ⟨t', hf', he', -⟩ := found?_call hf (.refl he) now fresh method args
      exact ih (hv.step _) hf' (he'.trans he) hlater

/-- What a session is told is the recital of a twin. -/
theorem told_uncached (hv : v.Named) (hf : v.found? id = some (p, t)) (h : s.Twin t)
    (hes : OnlyCalls id es) :
    (told id es (answers dispatchUncached v es)).map Envelope.impersonal =
      (s.recital (calls id es)).map Envelope.impersonal := by
  induction es generalizing v s t with
  | nil => rfl
  | cons e es ih =>
    obtain ⟨hfor | ⟨now, fresh, method, args, rfl⟩, hlater⟩ := hes.cons
    · have hfound := (hv.found?_step hfor).trans hf
      rw [answers, told_cons_of_not_isFor hfor, calls_cons_of_not_isFor hfor]
      exact ih (hv.step e) hfound h hlater
    · have hanswer : (step dispatchUncached v ⟨now, fresh, .dispatch id method args⟩).1 =
          .called ((t.touch now).reply method args).1 :=
        congrArg Answer.called (fst_dispatchUncached (v := v.drawing _) hf method args)
      obtain ⟨-, hsame⟩ := (h.touch now).reply method args
      obtain ⟨t', hf', -, htwin⟩ := found?_call hf h now fresh method args
      rw [answers, hanswer, told_cons_call, calls_cons_call, Session.recital, List.map_cons,
        List.map_cons, hsame]
      exact congrArg _ (ih (hv.step _) hf' htwin hlater)

/-! ## Loading an export -/

/-- The session has been loaded from an export and has no aliases yet. -/
structure LoadedFrom (a : Export.Artifact) (settings : Settings) (s : Session) : Prop where
  engine : s.engine = some a.engine
  aliases : s.aliases = AliasStore.fresh
  provenance : s.provenance = .ofMembers [("backend", .string Export.backendName),
    ("backend_version", .string a.engineVersion), ("settings", settings.toJson)]

/-- A load that succeeds registers a session about the export. -/
theorem found?_of_load {v' : Service} (hfactory : v.setup.factory = Export.factory) {path : String}
    {settings : Settings} {bytes : ByteArray} {a : Export.Artifact}
    (hbytes : v.artifactBytes path = .ok bytes) (ha : Export.Artifact.read? bytes = some a)
    (hload : v.load path settings = (.ok s, v')) :
    ∃ p t, v'.found? s.id = some (p, t) ∧ LoadedFrom a settings t := by
  obtain ⟨bytes', engine, count, files, hbytes', hengine, -, rfl, rfl⟩ := load_ok hload
  obtain rfl := Except.ok.inj (hbytes.symm.trans hbytes')
  have hread := engineOfBytes_of_buildEngine hfactory hengine
  rw [Export.engineOfBytes, ha] at hread
  obtain rfl : a.engine = engine := Except.ok.inj hread
  refine ⟨_, _, found?_register_self .., ⟨rfl, rfl, ?_⟩⟩
  simp only [Session.provenance, newSession, hfactory]
  rfl

theorem found?_of_loaded (hfactory : v.setup.factory = Export.factory) {path : String}
    {settings : Settings} {bytes : ByteArray} {a : Export.Artifact}
    (hbytes : v.artifactBytes path = .ok bytes) (ha : Export.Artifact.read? bytes = some a)
    {dispatch : Dispatch} {now : Nat}
    (hloaded : (step dispatch v ⟨now, id, .load path settings⟩).1 = .loaded (.ok s)) :
    ∃ p t, (step dispatch v ⟨now, id, .load path settings⟩).2.found? id = some (p, t) ∧
      LoadedFrom a settings t := by
  have hdrawn : (v.drawing ⟨now, id, .load path settings⟩).artifactBytes path = .ok bytes := hbytes
  simp only [step, act] at hloaded ⊢
  cases hload : (v.drawing ⟨now, id, .load path settings⟩).load path settings with
  | mk result v' =>
    rw [hload] at hloaded
    obtain rfl : result = .ok s := Answer.loaded.inj hloaded
    obtain ⟨p, t, hf, ht⟩ := found?_of_load (v := v.drawing _) hfactory hdrawn ha hload
    obtain ⟨bytes', engine, count, files, -, -, -, rfl, -⟩ := load_ok hload
    exact ⟨p, t, hf, ht⟩

/-! ## Courses -/

/-- What there is to the course of a session: a service with files, the events `before` the session
is loaded, the load, and the `later` events. -/
structure Course.Data where
  setup : Setup
  files : Files.Tree
  clock : Nat
  before : List Event
  now : Nat
  id : String
  path : String
  settings : Settings
  artifact : Export.Artifact
  later : List Event

namespace Course.Data

/-- The load of the session. -/
def load (c : Data) : Event := ⟨c.now, c.id, .load c.path c.settings⟩

/-- The service before the load. -/
def service (c : Data) : Service :=
  after Service.dispatch (start c.setup c.files c.clock) c.before

/-- All events of the course. -/
def events (c : Data) : List Event := c.before ++ c.load :: c.later

end Course.Data

/-- The course of a session that is loaded from an export and called later, among other events, in a
service with a cache that was empty at first. The cache is left alone, and no digests collide. -/
structure Course extends Course.Data where
  factory : setup.factory = Export.factory
  empty : setup.cache.IsEmpty files
  avoids : ∀ e ∈ toData.events, e.Avoids setup (files.Reserved setup.cache.root)
  noCollision : NoCollision (hashed (start setup files clock) toData.events)
  read : ∃ bytes, toData.service.artifactBytes path = .ok bytes ∧
    Export.Artifact.read? bytes = some artifact
  loaded : (step Service.dispatch toData.service toData.load).1.isSession = true
  called : OnlyCalls id later

namespace Course

/-- The service after the load. -/
def opened (c : Course) : Service := (step Service.dispatch c.service c.load).2

/-- The service in the end. -/
def closing (c : Course) : Service := after Service.dispatch c.opened c.later

/-- The calls that are made on the session. -/
def calls (c : Course) : List (String × Json) := Service.calls c.id c.later

/-- What the calls on the session are answered with. -/
def told (c : Course) : List Envelope :=
  Service.told c.id c.later (answers Service.dispatch c.opened c.later)

theorem events_eq (c : Course) : c.events = (c.before ++ [c.load]) ++ c.later := by
  simp [Data.events]

theorem opened_eq_after (c : Course) :
    c.opened = after Service.dispatch (start c.setup c.files c.clock) (c.before ++ [c.load]) :=
  (after_append _ _ c.before [c.load]).symm

theorem noCollision_later (c : Course) :
    NoCollision (hashed (start c.setup c.files c.clock) (c.before ++ [c.load]) ++
      hashed c.opened c.later) := by
  rw [opened_eq_after, ← hashed_append, ← events_eq]
  exact c.noCollision

/-- After the load the service is in lockstep with one that has no cache. -/
theorem lockstep (c : Course) : ∃ r files, c.opened = { r with files := files } ∧ r.Named ∧
    r.setup = c.setup ∧
      Lockstep c.files (hashed (start c.setup c.files c.clock) (c.before ++ [c.load])) r files := by
  have havoids := c.avoids
  rw [events_eq] at havoids
  obtain ⟨files, hafter, hstep⟩ := (Lockstep.start c.empty c.clock).after c.factory
    (fun e he => havoids e (List.mem_append_left _ he))
    (c.noCollision_later.mono (List.subset_append_left _ _))
  have hnamed := (Named.start c.setup c.files c.clock).after (c.before ++ [c.load])
  exact ⟨_, files, c.opened_eq_after.trans hafter, hnamed, after_setup .., hstep⟩

/-- The load makes a session about the export. -/
theorem found?_opened (c : Course) :
    ∃ p s, c.opened.found? c.id = some (p, s) ∧ LoadedFrom c.artifact c.settings s := by
  have hsetup : c.service.setup = c.setup := after_setup ..
  obtain ⟨bytes, hbytes, ha⟩ := c.read
  obtain ⟨s, hloaded⟩ := Answer.isSession_iff.1 c.loaded
  exact found?_of_loaded (hsetup ▸ c.factory) hbytes ha hloaded

theorem avoids_later (c : Course) :
    ∀ e ∈ c.later, e.Avoids c.setup (c.files.Reserved c.setup.cache.root) :=
  fun e he => c.avoids e (c.events_eq ▸ List.mem_append_right _ he)

/-- In its course a session is told what it would recite by itself. -/
theorem told_eq_recital (c : Course) : ∃ s, LoadedFrom c.artifact c.settings s ∧
    c.told.map Envelope.impersonal = (s.recital c.calls).map Envelope.impersonal := by
  obtain ⟨r, files, hopened, hnamed, hsetup, hlockstep⟩ := c.lockstep
  obtain ⟨p, s, hf, hs⟩ := c.found?_opened
  have hcoll := c.noCollision_later
  rw [hopened] at hf hcoll
  have hanswers := hlockstep.answers (hsetup ▸ c.factory) (hsetup ▸ c.avoids_later) hcoll
  refine ⟨s, hs, ?_⟩
  rw [told, hopened, map_impersonal_told hanswers]
  exact told_uncached hnamed hf (.refl hs.engine) c.called

/-- In the end the session is accessed with the engine of the export, and answers a call as it would
by itself, but for warnings. -/
theorem dispatch_closing (c : Course) : ∃ p s v, c.closing.access c.id = some (p, s, v) ∧
    s.engine = some c.artifact.engine ∧ ∀ method args,
      (c.closing.dispatch c.id method args).1.silent = (s.reply method args).1.silent := by
  obtain ⟨r, files, hopened, hnamed, hsetup, hlockstep⟩ := c.lockstep
  obtain ⟨p, s, hf, hs⟩ := c.found?_opened
  have hcoll := c.noCollision_later
  rw [hopened] at hf hcoll
  obtain ⟨files', hafter, hend⟩ :=
    hlockstep.after (hsetup ▸ c.factory) (hsetup ▸ c.avoids_later) hcoll
  obtain ⟨t, ht, hengine⟩ := found?_after hnamed hf hs.engine c.called
  have hclosing : c.closing = { after dispatchUncached r c.later with files := files' } := by
    rw [closing, hopened, hafter]
  have hfound : c.closing.found? c.id = some (p, t) := by
    rw [hclosing]
    exact ht
  refine ⟨p, _, _, access_of_found hfound, hengine, fun method args => ?_⟩
  obtain ⟨_, -, hanswer, -⟩ := hend.dispatch hcoll c.id method args
  rw [hclosing, hanswer, fst_dispatchUncached ht]

end Course

/-! ### For samples -/

/-- A type with a name, flags and perhaps a type above it and a source, and with nothing else. -/
def bareEntry (rawName : String) (flags : List String) (superClass source : Option String) :
    Export.Entry :=
  ⟨⟨rawName, .classType, flags⟩, ⟨superClass, [], [], [], none, []⟩, source, none, [], [], [], [],
    []⟩

/-- An export that has nothing but types. -/
def bareArtifact (types : List Export.Entry) : Export.Artifact :=
  ⟨"1", "dex", types, [], none, 0, 0⟩

/-- The text of the cache key of the sessions about an export. -/
def keyTextOf (text : String) : String := CacheKey.material (Sha256.hex text.toUTF8) "1" .default

end Service
end DexQuery
