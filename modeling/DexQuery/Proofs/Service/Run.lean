import DexQuery.Proofs.Session.Uncached
import DexQuery.Proofs.Service.Found

/-!
# Runs of a service

A run is a list of events, and an event is an action together with what the service draws from its
surroundings on the occasion: the time, and the id that a session gets if one is loaded. So two runs
can be compared event by event, whatever other events there are. An event that draws what the
service would draw by itself is the action itself (`step_load`, `step_dispatch`).

The dispatch of calls is a parameter of runs, and `dispatchUncached` is one that never goes to the
cache.
-/

namespace DexQuery
namespace Service

/-! ## A service without a cache -/

/-- Runs a request on the session at a place, without a cache. -/
def runAtUncached (v : Service) (place : Nat) (r : Request) : Except Failure Output × Service :=
  match v.session? place with
  | none => (.error .sessionClosed, v)
  | some s =>
    let (answer, s') := s.runUncached r
    (answer, v.setSession place s')

/-- Calls a method on an open session, without a cache. -/
def callUncached (v : Service) (id method : String) (args : Json) :
    Except Failure Output × Service :=
  match Request.ofCall method args with
  | .error e => (.error e, v)
  | .ok r =>
    match v.access id with
    | none => (.error (.sessionNotFound id), v)
    | some (place, _, v') => v'.runAtUncached place r

/-- Calls a method on an open session, without a cache, and puts the answer into an envelope. -/
def dispatchUncached (v : Service) (id method : String) (args : Json) : Envelope × Service :=
  let (answer, v') := v.callUncached id method args
  (.ofResult method args answer, v')

/-! ### Calls by the session they find -/

variable {v : Service} {id method : String} {args : Json} {place : Nat} {s : Session}
  {r : Request} {f : Failure}

theorem callUncached_of_unread (hr : Request.ofCall method args = .error f) :
    v.callUncached id method args = (.error f, v) := by
  simp only [callUncached, hr]

theorem callUncached_of_not_found (hr : Request.ofCall method args = .ok r)
    (h : v.found? id = none) :
    v.callUncached id method args = (.error (.sessionNotFound id), v) := by
  simp only [callUncached, hr, access_of_not_found h]

theorem callUncached_of_found (hr : Request.ofCall method args = .ok r)
    (h : v.found? id = some (place, s)) :
    v.callUncached id method args = (((s.touch v.clock).runUncached r).1,
      { v.setSession place ((s.touch v.clock).runUncached r).2 with clock := v.clock + 1 }) := by
  obtain ⟨-, hs⟩ := found?_eq_some_iff.1 h
  have hs' : ({ v.setSession place (s.touch v.clock) with clock := v.clock + 1 } :
      Service).session? place = some (s.touch v.clock) :=
    session?_setSession_self (session?_lt hs) _
  simp only [callUncached, hr, access_of_found h, runAtUncached, hs']
  simp only [setSession, List.set_set]

/-! ## Events -/

/-- What happens to a service: loading, calling, closing, and somebody else putting a file or a
directory somewhere. -/
inductive Action where
  | load (path : String) (settings : Settings)
  | dispatch (id method : String) (args : Json)
  | close (id : String)
  | edit (path : Files.Path) (node : Files.Node)

/-- An action, with the time and the new id that are drawn for it. -/
structure Event where
  now : Nat
  fresh : String
  action : Action

/-- What comes back from an action. -/
inductive Answer where
  | loaded (result : Except Failure Session)
  | called (envelope : Envelope)
  | closed (wasOpen : Bool)
  | edited

/-- How calls are dispatched. -/
abbrev Dispatch := Service → String → String → Json → Envelope × Service

/-- The service with the draws for an event. -/
def drawing (v : Service) (e : Event) : Service :=
  { v with setup := { v.setup with ids := fun _ => e.fresh }, clock := e.now }

/-- What an action gives, and the service after it. -/
def act (dispatch : Dispatch) (v : Service) : Action → Answer × Service
  | .load path settings =>
    let (result, v') := v.load path settings
    (.loaded result, v')
  | .dispatch id method args =>
    let (envelope, v') := dispatch v id method args
    (.called envelope, v')
  | .close id =>
    let (wasOpen, v') := v.close id
    (.closed wasOpen, v')
  | .edit path node => (.edited, { v with files := v.files.set path node })

/-- What an event gives, and the service after it, which is set up as before. -/
def step (dispatch : Dispatch) (v : Service) (e : Event) : Answer × Service :=
  let (answer, v') := act dispatch (v.drawing e) e.action
  (answer, { v' with setup := v.setup })

/-- The answers to a run. -/
def answers (dispatch : Dispatch) (v : Service) : List Event → List Answer
  | [] => []
  | e :: es => (step dispatch v e).1 :: answers dispatch (step dispatch v e).2 es

/-- The service after a run. -/
def after (dispatch : Dispatch) (v : Service) : List Event → Service
  | [] => v
  | e :: es => after dispatch (step dispatch v e).2 es

theorem after_append (dispatch : Dispatch) (v : Service) (es es' : List Event) :
    after dispatch v (es ++ es') = after dispatch (after dispatch v es) es' := by
  induction es generalizing v with
  | nil => rfl
  | cons e es ih => exact ih _

theorem after_setup (dispatch : Dispatch) (v : Service) (es : List Event) :
    (after dispatch v es).setup = v.setup := by
  induction es generalizing v with
  | nil => rfl
  | cons e es ih => exact ih _

/-- An event that draws the next id and the time of the clock is a load of the service. -/
theorem step_load (dispatch : Dispatch) (v : Service) (path : String) (settings : Settings) :
    step dispatch v ⟨v.clock, v.setup.ids v.loaded.length, .load path settings⟩ =
      (.loaded (v.load path settings).1, (v.load path settings).2) := by
  have hbytes : (v.drawing ⟨v.clock, v.setup.ids v.loaded.length,
      .load path settings⟩).artifactBytes path = v.artifactBytes path := rfl
  simp only [step, act, load, hbytes]
  cases v.artifactBytes path with
  | error f => rfl
  | ok bytes =>
    have hengine : (v.drawing ⟨v.clock, v.setup.ids v.loaded.length,
        .load path settings⟩).buildEngine path bytes settings =
          v.buildEngine path bytes settings := rfl
    simp only [hengine]
    cases v.buildEngine path bytes settings with
    | error f => rfl
    | ok built =>
      simp only [drawing]
      cases v.files.makeDirs v.setup.aliasDir with
      | mk result files => cases result <;> rfl

/-- An event at the time of the clock is a call of the service. -/
theorem step_dispatch (v : Service) (id method fresh : String) (args : Json) :
    step Service.dispatch v ⟨v.clock, fresh, .dispatch id method args⟩ =
      (.called (v.dispatch id method args).1, (v.dispatch id method args).2) := by
  have hfound : (v.drawing ⟨v.clock, fresh, .dispatch id method args⟩).found? id =
      v.found? id := rfl
  simp only [step, act, dispatch]
  cases hr : Request.ofCall method args with
  | error f =>
    rw [call_of_unread hr, call_of_unread hr]
    rfl
  | ok r =>
    cases hf : v.found? id with
    | none =>
      rw [call_of_not_found hr hf, call_of_not_found hr (hfound.trans hf)]
      rfl
    | some found =>
      rw [call_of_found hr hf, call_of_found hr (hfound.trans hf)]
      rfl

/-! ## What is seen of a run, and what is assumed of it -/

/-- An answer without warnings. -/
def Answer.silent : Answer → Answer
  | .called envelope => .called envelope.silent
  | a => a

/-- The event goes to no path of a kind: neither on the way to an artifact nor to write there. -/
def Event.Avoids (e : Event) (setup : Setup) (kind : Files.Path → Prop) : Prop :=
  match e.action with
  | .load path _ =>
    ∀ q ∈ Files.textTrail setup.cwd (Files.expandHome setup.home path), ¬ kind q
  | .edit path _ => ¬ kind path
  | .dispatch .. => True
  | .close _ => True

instance (e : Event) (setup : Setup) (kind : Files.Path → Prop) [DecidablePred kind] :
    Decidable (e.Avoids setup kind) :=
  match e with
  | ⟨_, _, .load path _⟩ => inferInstanceAs (Decidable
      (∀ q ∈ Files.textTrail setup.cwd (Files.expandHome setup.home path), ¬ kind q))
  | ⟨_, _, .edit path _⟩ => inferInstanceAs (Decidable (¬ kind path))
  | ⟨_, _, .dispatch ..⟩ => isTrue trivial
  | ⟨_, _, .close _⟩ => isTrue trivial

/-- A string whose digest is computed: the bytes of an artifact, or the text that a cache key is the
digest of. -/
inductive Hashed where
  | artifact (bytes : ByteArray)
  | material (text : String)

instance : DecidableEq Hashed
  | .artifact b, .artifact b' =>
    decidable_of_iff (b.data = b'.data) (by rw [Hashed.artifact.injEq, ByteArray.ext_iff])
  | .material m, .material m' => decidable_of_iff (m = m') (by rw [Hashed.material.injEq])
  | .artifact _, .material _ => isFalse nofun
  | .material _, .artifact _ => isFalse nofun

/-- The strings that an action computes the digests of. -/
def hashedBy (v : Service) : Action → List Hashed
  | .load path settings =>
    match v.artifactBytes path with
    | .error _ => []
    | .ok bytes =>
      match v.buildEngine path bytes settings with
      | .error _ => [.artifact bytes]
      | .ok (engine, _) => [.artifact bytes,
          .material (CacheKey.material (Sha256.hex bytes) engine.version settings)]
  | _ => []

/-- The strings that a run computes the digests of. -/
def hashed (v : Service) : List Event → List Hashed
  | [] => []
  | e :: es => v.hashedBy e.action ++ hashed (step Service.dispatch v e).2 es

theorem hashed_append (v : Service) (es es' : List Event) :
    hashed v (es ++ es') = hashed v es ++ hashed (after Service.dispatch v es) es' := by
  induction es generalizing v with
  | nil => rfl
  | cons e es ih => rw [List.cons_append, hashed, hashed, ih, List.append_assoc, after]

/-- No two artifacts have the same digest, and no two texts of keys. -/
structure NoCollision (l : List Hashed) : Prop where
  artifacts : ∀ b b', .artifact b ∈ l → .artifact b' ∈ l → Sha256.hex b = Sha256.hex b' → b = b'
  materials : ∀ m m', .material m ∈ l → .material m' ∈ l →
    Sha256.hex m.toUTF8 = Sha256.hex m'.toUTF8 → m = m'

/-- A single artifact and a single text of a key do not collide. -/
theorem NoCollision.of_single {l : List Hashed} (bytes : ByteArray) (text : String)
    (h : l ⊆ [.artifact bytes, .material text]) : NoCollision l where
  artifacts b b' hb hb' _ := by
    obtain rfl : b = bytes := by simpa using h hb
    obtain rfl : b' = b := by simpa using h hb'
    rfl
  materials m m' hm hm' _ := by
    obtain rfl : m = text := by simpa using h hm
    obtain rfl : m' = m := by simpa using h hm'
    rfl

theorem NoCollision.mono {l l' : List Hashed} (h : NoCollision l') (hl : l ⊆ l') :
    NoCollision l where
  artifacts b b' hb hb' := h.artifacts b b' (hl hb) (hl hb')
  materials m m' hm hm' := h.materials m m' (hl hm) (hl hm')

end Service
end DexQuery
