import DexQuery.Proofs.Service.Still
import DexQuery.Proofs.Service.Transparency

/-!
# Sessions do not see each other

What a session is told does not hang on the others. Without a cache this is seen event by event: an
event for another session leaves the session that an id leads to as it is, and an event for the
session itself gives the same answer whatever else has been loaded (`Apart.skip`, `Apart.step`).
With a cache it follows, because the cache is transparent to all sessions together and to the one
session alone, which hashes no string that all of them do not.
-/

namespace DexQuery
namespace Service

open Files (Tree Path)

/-! ## The events of one session -/

/-- The event is for the session with the id: it loads it, asks it something or closes it. -/
def Event.isFor (id : String) (e : Event) : Bool :=
  match e.action with
  | .load .. => e.fresh == id
  | .dispatch id' .. => id' == id
  | .close id' => id' == id
  | .edit .. => false

/-- Those of the answers to events that answer the events for the session. -/
def answersFor {α : Type} (id : String) : List Event → List α → List α
  | e :: es, a :: as => if e.isFor id then a :: answersFor id es as else answersFor id es as
  | _, _ => []

theorem map_answersFor {α β : Type} (f : α → β) (id : String) (es : List Event) (as : List α) :
    (answersFor id es as).map f = answersFor id es (as.map f) := by
  induction es generalizing as with
  | nil => rfl
  | cons e es ih =>
    cases as with
    | nil => rfl
    | cons a as =>
      simp only [answersFor, List.map_cons]
      split
      · rw [List.map_cons, ih]
      · exact ih as

/-! ## A service without a cache, event by event -/

/-- What a call does: nothing, or it changes the session that the id leads to. -/
theorem dispatchUncached_cases (v : Service) (id method : String) (args : Json) :
    (v.dispatchUncached id method args).2 = v ∨ ∃ p s s' clock, v.found? id = some (p, s) ∧
      s'.id = s.id ∧
        (v.dispatchUncached id method args).2 = { v.setSession p s' with clock := clock } := by
  simp only [dispatchUncached]
  cases hr : Request.ofCall method args with
  | error f =>
    rw [callUncached_of_unread hr]
    exact .inl rfl
  | ok r =>
    cases hf : v.found? id with
    | none =>
      rw [callUncached_of_not_found hr hf]
      exact .inl rfl
    | some found =>
      obtain ⟨p, s⟩ := found
      obtain ⟨aliases, hsame⟩ := (s.touch v.clock).runUncached_eq r
      rw [callUncached_of_found hr hf, hsame]
      exact .inr ⟨p, s, { s.touch v.clock with aliases := aliases }, v.clock + 1, rfl, rfl, rfl⟩

theorem dispatchUncached_setup (v : Service) (id method : String) (args : Json) :
    (v.dispatchUncached id method args).2.setup = v.setup := by
  rcases dispatchUncached_cases v id method args with heq | ⟨p, s, s', clock, -, -, heq⟩
  · rw [heq]
  · rw [heq]
    rfl

/-! ### What ids lead to -/

namespace Named

variable {v : Service} {id b method : String} {args : Json} {path : String} {settings : Settings}

/-- A load registers a new session, or nothing. -/
theorem load (h : v.Named) (path : String) (settings : Settings) :
    (v.load path settings).2.Named := by
  cases hload : v.load path settings with
  | mk result v' =>
    cases result with
    | error f =>
      obtain ⟨files, rfl⟩ := load_error hload
      exact h
    | ok s =>
      obtain ⟨bytes, engine, count, files, -, -, -, rfl, rfl⟩ := load_ok hload
      have hnamed : ({ v with files := files } : Service).Named := h
      exact hnamed.register _

theorem found?_load (h : v.Named) (hne : ∀ n, v.setup.ids n ≠ b) :
    (v.load path settings).2.found? b = v.found? b := by
  cases hload : v.load path settings with
  | mk result v' =>
    cases result with
    | error f =>
      obtain ⟨files, rfl⟩ := load_error hload
      rfl
    | ok s =>
      obtain ⟨bytes, engine, count, files, -, -, -, rfl, rfl⟩ := load_ok hload
      have hnamed : ({ v with files := files } : Service).Named := h
      exact hnamed.found?_register (hne _)

theorem dispatch (h : v.Named) (id method : String) (args : Json) :
    (v.dispatchUncached id method args).2.Named := by
  rcases dispatchUncached_cases v id method args with heq | ⟨p, s, s', clock, hf, hid, heq⟩
  · rwa [heq]
  · rw [heq]
    exact h.setSession (found?_eq_some_iff.1 hf).2 hid

theorem found?_dispatch (h : v.Named) (hne : id ≠ b) :
    (v.dispatchUncached id method args).2.found? b = v.found? b := by
  rcases dispatchUncached_cases v id method args with heq | ⟨p, s, s', clock, hf, -, heq⟩
  · rw [heq]
  · rw [heq]
    have hsid := h.id_of_found hf
    exact h.found?_setSession (found?_eq_some_iff.1 hf).2 (hsid ▸ hne)

theorem step (h : v.Named) (e : Event) : (Service.step dispatchUncached v e).2.Named := by
  have hdrawn : (v.drawing e).Named := h
  obtain ⟨now, fresh, a⟩ := e
  cases a with
  | load path settings => exact hdrawn.load path settings
  | dispatch id method args => exact hdrawn.dispatch id method args
  | close id => exact hdrawn.close id
  | edit path node => exact hdrawn

/-- An event for another session leaves what an id leads to as it is. -/
theorem found?_step (h : v.Named) {e : Event} (hother : e.isFor b = false) :
    (Service.step dispatchUncached v e).2.found? b = v.found? b := by
  have hdrawn : (v.drawing e).Named := h
  obtain ⟨now, fresh, a⟩ := e
  have hne : ∀ {x : String}, (x == b) = false → x ≠ b := fun hx => by simpa using hx
  cases a with
  | load path settings => exact hdrawn.found?_load fun _ => hne hother
  | dispatch id method args => exact hdrawn.found?_dispatch (hne hother)
  | close id => exact hdrawn.found?_close (hne hother)
  | edit path node => rfl

theorem after (h : v.Named) (es : List Event) :
    (Service.after dispatchUncached v es).Named := by
  induction es generalizing v with
  | nil => exact h
  | cons e es ih => exact ih (h.step e)

end Named

/-! ### Files -/

/-- The service runs without a cache on the files `t₀`: nothing has been added to them but the
directory of alias stores. -/
structure Plain (t₀ : Tree) (v : Service) : Prop where
  files : v.files = t₀ ∨ v.files = (t₀.makeDirs v.setup.aliasDir).2
  named : v.Named

namespace Plain

variable {t₀ : Tree} {v : Service}

/-- The directory of alias stores is made as at the first time. -/
theorem makeDirs (h : Plain t₀ v) :
    v.files.makeDirs v.setup.aliasDir = t₀.makeDirs v.setup.aliasDir := by
  rcases h.files with hfiles | hfiles
  · rw [hfiles]
  · rw [hfiles, Tree.makeDirs_again]

theorem node? (h : Plain t₀ v) {q : Path} (hq : ¬ t₀.Reserved v.setup.aliasDir q) :
    v.node? q = t₀.node? q := by
  rw [node?_of_outside fun hp => hq (.inl hp)]
  rcases h.files with hfiles | hfiles
  · rw [hfiles]
  · rw [hfiles, (Tree.filledBelow_makeDirs t₀ v.setup.aliasDir).off q hq]

theorem load (h : Plain t₀ v) (path : String) (settings : Settings) :
    Plain t₀ (v.load path settings).2 := by
  refine ⟨?_, h.named.load path settings⟩
  rw [load_setup]
  rcases load_files v path settings with hfiles | hfiles
  · rw [hfiles]
    exact h.files
  · rw [hfiles, h.makeDirs]
    exact .inr rfl

theorem dispatch (h : Plain t₀ v) (id method : String) (args : Json) :
    Plain t₀ (v.dispatchUncached id method args).2 := by
  refine ⟨?_, h.named.dispatch id method args⟩
  rcases dispatchUncached_cases v id method args with heq | ⟨p, s, s', clock, -, -, heq⟩
  · rw [heq]
    exact h.files
  · rw [heq]
    exact h.files

theorem close (h : Plain t₀ v) (id : String) : Plain t₀ (v.close id).2 := by
  refine ⟨?_, h.named.close id⟩
  rw [close_setup, close_files]
  exact h.files

theorem drawing (h : Plain t₀ v) (e : Event) : Plain t₀ (v.drawing e) := ⟨h.files, h.named⟩

/-- The draws for an event are undone in the end. -/
theorem undraw {v' : Service} {e : Event} (h : Plain t₀ v')
    (hsetup : v'.setup = (v.drawing e).setup) : Plain t₀ { v' with setup := v.setup } := by
  refine ⟨?_, h.named⟩
  have hfiles := h.files
  rw [hsetup] at hfiles
  exact hfiles

theorem step (h : Plain t₀ v) {e : Event} (he : e.IsOfService) :
    Plain t₀ (Service.step dispatchUncached v e).2 := by
  have hdrawn := h.drawing e
  obtain ⟨now, fresh, a⟩ := e
  cases a with
  | load path settings => exact (hdrawn.load path settings).undraw (load_setup ..)
  | dispatch id method args =>
    exact (hdrawn.dispatch id method args).undraw (dispatchUncached_setup ..)
  | close id => exact (hdrawn.close id).undraw (close_setup ..)
  | edit path node => exact absurd he id

end Plain

/-! ### Events for the session itself -/

/-- Two services without a cache that are set up alike, have the same files to read, and in which
the id leads to the same session, at whatever place, or to none. -/
structure Apart (t₀ : Tree) (id : String) (v w : Service) : Prop where
  setup : w.setup = v.setup
  left : Plain t₀ v
  right : Plain t₀ w
  same : (w.found? id).map (·.2) = (v.found? id).map (·.2)

namespace Apart

variable {t₀ : Tree} {b : String} {v w : Service}

/-- The id leads to no session in both, or to the same. -/
theorem found (h : Apart t₀ b v w) : (v.found? b = none ∧ w.found? b = none) ∨
    ∃ p q s, v.found? b = some (p, s) ∧ w.found? b = some (q, s) := by
  have hsame := h.same
  cases hv : v.found? b with
  | none =>
    rw [hv] at hsame
    exact .inl ⟨rfl, Option.map_eq_none_iff.1 hsame⟩
  | some ps =>
    obtain ⟨p, s⟩ := ps
    rw [hv] at hsame
    obtain ⟨⟨q, s'⟩, hw, rfl⟩ := Option.map_eq_some_iff.1 hsame
    exact .inr ⟨p, q, s', rfl, hw⟩

theorem artifactBytes (h : Apart t₀ b v w) {path : String}
    (havoids : ∀ q ∈ Files.textTrail v.setup.cwd (Files.expandHome v.setup.home path),
      ¬ t₀.Reserved v.setup.aliasDir q) :
    w.artifactBytes path = v.artifactBytes path := by
  refine artifactBytes_congr h.setup fun q hq => ?_
  rw [h.left.node? (havoids q hq), h.right.node? (h.setup ▸ havoids q hq)]

/-- Both load the same session, if its id and the time are the same. -/
theorem load (h : Apart t₀ b v w) (hid : ∀ n, v.setup.ids n = b) (hclock : w.clock = v.clock)
    {path : String} {settings : Settings}
    (havoids : ∀ q ∈ Files.textTrail v.setup.cwd (Files.expandHome v.setup.home path),
      ¬ t₀.Reserved v.setup.aliasDir q) :
    (w.load path settings).1 = (v.load path settings).1 ∧
      ((w.load path settings).2.found? b).map (·.2) =
        ((v.load path settings).2.found? b).map (·.2) := by
  have hbuild : ∀ bytes, w.buildEngine path bytes settings = v.buildEngine path bytes settings :=
    fun bytes => by simp only [buildEngine, h.setup]
  have hdirs : w.files.makeDirs v.setup.aliasDir = v.files.makeDirs v.setup.aliasDir := by
    have hright := h.right.makeDirs
    rw [h.setup] at hright
    rw [hright, h.left.makeDirs]
  have hnew : ∀ bytes engine count, w.newSession path bytes settings engine count =
      v.newSession path bytes settings engine count := fun bytes engine count => by
    simp only [newSession, h.setup, hclock, hid]
  simp only [Service.load, h.artifactBytes havoids, hbuild, hdirs, hnew, h.setup]
  cases v.artifactBytes path with
  | error f => exact ⟨rfl, h.same⟩
  | ok bytes =>
    dsimp only
    cases v.buildEngine path bytes settings with
    | error f => exact ⟨rfl, h.same⟩
    | ok built =>
      obtain ⟨engine, count⟩ := built
      dsimp only
      cases v.files.makeDirs v.setup.aliasDir with
      | mk result files =>
        cases result with
        | error f => exact ⟨rfl, h.same⟩
        | ok _ =>
          refine ⟨rfl, ?_⟩
          have hb : (v.newSession path bytes settings engine count).id = b := hid _
          dsimp only
          rw [← hb, found?_register_self, found?_register_self]
          rfl

/-- Both answer a call on the session alike. -/
theorem dispatch (h : Apart t₀ b v w) (hclock : w.clock = v.clock) (method : String)
    (args : Json) :
    (w.dispatchUncached b method args).1 = (v.dispatchUncached b method args).1 ∧
      ((w.dispatchUncached b method args).2.found? b).map (·.2) =
        ((v.dispatchUncached b method args).2.found? b).map (·.2) := by
  simp only [dispatchUncached]
  cases hr : Request.ofCall method args with
  | error f =>
    rw [callUncached_of_unread hr, callUncached_of_unread hr]
    exact ⟨rfl, h.same⟩
  | ok r =>
    rcases h.found with ⟨hv, hw⟩ | ⟨p, q, s, hv, hw⟩
    · rw [callUncached_of_not_found hr hv, callUncached_of_not_found hr hw]
      exact ⟨rfl, h.same⟩
    · rw [callUncached_of_found hr hv, callUncached_of_found hr hw, hclock]
      refine ⟨rfl, ?_⟩
      have hv' := found?_setSession_self hv ((s.touch v.clock).runUncached r).2
      have hw' := found?_setSession_self hw ((s.touch v.clock).runUncached r).2
      exact (congrArg (Option.map (·.2)) hw').trans (congrArg (Option.map (·.2)) hv').symm

theorem close (h : Apart t₀ b v w) : (w.close b).1 = (v.close b).1 ∧
    ((w.close b).2.found? b).map (·.2) = ((v.close b).2.found? b).map (·.2) := by
  have hgone : ∀ v : Service, (v.close b).2.found? b = none := by
    intro v
    rw [found?, place?_close_self]
    rfl
  rw [hgone, hgone, h.left.named.close_fst, h.right.named.close_fst]
  refine ⟨?_, rfl⟩
  rcases h.found with ⟨hv, hw⟩ | ⟨p, q, s, hv, hw⟩
  · rw [hv, hw]
  · rw [hv, hw]
    rfl

/-- An event for another session is as good as none. -/
theorem skip (h : Apart t₀ b v w) {e : Event} (he : e.IsOfService) (hother : e.isFor b = false) :
    Apart t₀ b (Service.step dispatchUncached v e).2 w where
  setup := h.setup
  left := h.left.step he
  right := h.right
  same := by
    rw [h.left.named.found?_step hother]
    exact h.same

/-- An event for the session has the same answer in both. -/
theorem step (h : Apart t₀ b v w) {e : Event} (he : e.IsOfService) (hfor : e.isFor b = true)
    (havoids : e.Avoids v.setup (t₀.Reserved v.setup.aliasDir)) :
    (Service.step dispatchUncached w e).1 = (Service.step dispatchUncached v e).1 ∧
      Apart t₀ b (Service.step dispatchUncached v e).2 (Service.step dispatchUncached w e).2 := by
  have hdrawn : Apart t₀ b (v.drawing e) (w.drawing e) := by
    refine ⟨?_, h.left.drawing e, h.right.drawing e, h.same⟩
    simp only [drawing, h.setup]
  have hafter : ((Service.step dispatchUncached w e).2.found? b).map (·.2) =
      ((Service.step dispatchUncached v e).2.found? b).map (·.2) →
      Apart t₀ b (Service.step dispatchUncached v e).2 (Service.step dispatchUncached w e).2 :=
    fun hsame => ⟨h.setup, h.left.step he, h.right.step he, hsame⟩
  obtain ⟨now, fresh, a⟩ := e
  have heq : ∀ {x : String}, (x == b) = true → x = b := fun hx => by simpa using hx
  cases a with
  | load path settings =>
    obtain ⟨hanswer, hsame⟩ := hdrawn.load (fun _ => heq hfor) rfl havoids
    exact ⟨congrArg Answer.loaded hanswer, hafter hsame⟩
  | dispatch id method args =>
    obtain rfl := heq hfor
    obtain ⟨hanswer, hsame⟩ := hdrawn.dispatch rfl method args
    exact ⟨congrArg Answer.called hanswer, hafter hsame⟩
  | close id =>
    obtain rfl := heq hfor
    obtain ⟨hanswer, hsame⟩ := hdrawn.close
    exact ⟨congrArg Answer.closed hanswer, hafter hsame⟩
  | edit path node => exact absurd he id

/-- Without a cache a session is answered as if it were alone. -/
theorem answers (h : Apart t₀ b v w) {es : List Event} (hservice : ∀ e ∈ es, e.IsOfService)
    (havoids : ∀ e ∈ es, e.Avoids v.setup (t₀.Reserved v.setup.aliasDir)) :
    answersFor b es (Service.answers dispatchUncached v es) =
      Service.answers dispatchUncached w (es.filter (·.isFor b)) := by
  induction es generalizing v w with
  | nil => rfl
  | cons e es ih =>
    obtain ⟨he, hes⟩ := List.forall_mem_cons.1 hservice
    obtain ⟨ha, has⟩ := List.forall_mem_cons.1 havoids
    rw [Service.answers, answersFor]
    cases hfor : e.isFor b with
    | true =>
      obtain ⟨hanswer, hstep⟩ := h.step he hfor ha
      rw [List.filter_cons_of_pos hfor, if_pos rfl, Service.answers, hanswer]
      exact congrArg _ (ih hstep hes has)
    | false =>
      have hno : ¬ e.isFor b = true := by simp [hfor]
      rw [List.filter_cons_of_neg hno, if_neg (by simp)]
      exact ih (h.skip he hfor) hes has

end Apart

/-! ## Sessions with a cache -/

/-- **Sessions are isolated from each other.** The answers to the events for a session, among events
for any others, are those that it gets from the same service with no other event, but for the
warnings. The artifacts are the same from beginning to end and lie outside the directories of the
cache, which is empty at first, and of alias stores. -/
theorem answersFor_alone {setup : Setup} (hfactory : setup.factory = Export.factory) {t₀ : Tree}
    (hempty : setup.cache.IsEmpty t₀) (clock : Nat) {es : List Event}
    (hservice : ∀ e ∈ es, e.IsOfService)
    (hcache : ∀ e ∈ es, e.Avoids setup (t₀.Reserved setup.cache.root))
    (halias : ∀ e ∈ es, e.Avoids setup (t₀.Reserved setup.aliasDir))
    (hcoll : NoCollision (hashed (start setup t₀ clock) es)) (id : String) :
    (answersFor id es (answers Service.dispatch (start setup t₀ clock) es)).map Answer.silent =
      (answers Service.dispatch (start setup t₀ clock) (es.filter (·.isFor id))).map
        Answer.silent := by
  have hstart := Lockstep.start hempty clock
  have hplain : Plain t₀ (start setup t₀ clock) :=
    ⟨.inl rfl, fun id p hp => by simp [place?, start] at hp⟩
  have hapart : Apart t₀ id (start setup t₀ clock) (start setup t₀ clock) :=
    ⟨rfl, hplain, hplain, rfl⟩
  have hcoll' : NoCollision (hashed (start setup t₀ clock) (es.filter (·.isFor id))) :=
    hcoll.mono (hashed_filter_subset clock hservice hcache halias _)
  have hall := hstart.answers hfactory hcache hcoll
  have halone := hstart.answers hfactory
    (fun e he => hcache e (List.mem_filter.1 he).1) hcoll'
  calc (answersFor id es (answers Service.dispatch (start setup t₀ clock) es)).map Answer.silent
      = answersFor id es ((answers Service.dispatch (start setup t₀ clock) es).map Answer.silent) :=
        map_answersFor ..
    _ = answersFor id es ((answers dispatchUncached (start setup t₀ clock) es).map Answer.silent) :=
        congrArg _ hall
    _ = (answersFor id es (answers dispatchUncached (start setup t₀ clock) es)).map Answer.silent :=
        (map_answersFor ..).symm
    _ = (answers dispatchUncached (start setup t₀ clock) (es.filter (·.isFor id))).map
          Answer.silent := congrArg _ (hapart.answers hservice halias)
    _ = (answers Service.dispatch (start setup t₀ clock) (es.filter (·.isFor id))).map
          Answer.silent := halone.symm

/-- The second session of the sample is answered as if the first had not been loaded, renamed in and
closed. -/
theorem answersFor_alone_sample :
    (answersFor "y" sampleRun
        (answers Service.dispatch (start sampleSetup sampleFiles 0) sampleRun)).map Answer.silent =
      (answers Service.dispatch (start sampleSetup sampleFiles 0)
        (sampleRun.filter (·.isFor "y"))).map Answer.silent := by
  refine answersFor_alone rfl isEmpty_sample 0 ?_ ?_ ?_ noCollision_sampleRun "y"
  · decide
  · decide +kernel
  · decide +kernel

end Service
end DexQuery
