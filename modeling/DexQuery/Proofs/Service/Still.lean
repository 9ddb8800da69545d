import DexQuery.Proofs.Service.Run

/-!
# What stays as it is

A service that is left alone with its files writes to two directories only, that of the cache and
that of alias stores (`Still.step`). Artifacts that lie elsewhere are read as they were at the
start, and so the strings that are hashed are known from the start, event by event
(`Still.hashed_eq`).
-/

namespace DexQuery
namespace Service

open Files (Tree Path)

/-- Nobody writes a file on the occasion. -/
def Event.IsOfService (e : Event) : Prop :=
  match e.action with
  | .edit .. => False
  | _ => True

instance (e : Event) : Decidable e.IsOfService :=
  match e with
  | ⟨_, _, .load ..⟩ => isTrue trivial
  | ⟨_, _, .dispatch ..⟩ => isTrue trivial
  | ⟨_, _, .close _⟩ => isTrue trivial
  | ⟨_, _, .edit ..⟩ => isFalse id

/-- Outside of the directories of the cache and of alias stores the files are those of `t₀`. -/
structure Still (t₀ : Tree) (v : Service) : Prop where
  off : ∀ q, ¬ t₀.Reserved v.setup.cache.root q → ¬ t₀.Reserved v.setup.aliasDir q →
    v.files.node? q = t₀.node? q
  present : ∀ q, t₀.node? q ≠ none → v.files.node? q ≠ none
  caches : ∀ p s, v.session? p = some s → s.cache = v.setup.cache

namespace Still

variable {t₀ : Tree} {v : Service}

theorem start (setup : Setup) (t₀ : Tree) (clock : Nat) :
    Still t₀ (Service.start setup t₀ clock) where
  off _ _ _ := rfl
  present _ h := h
  caches p s h := by simp [session?, Service.start] at h

/-- What comes into either of the directories is not seen outside. -/
theorem fill (h : Still t₀ v) {dir : Path} {files : Tree}
    (hdir : dir = v.setup.cache.root ∨ dir = v.setup.aliasDir)
    (hfill : v.files.FilledBelow dir files) : Still t₀ { v with files := files } where
  off q hcache halias := by
    have hdir' : ¬ t₀.Reserved dir q := by
      rcases hdir with rfl | rfl
      · exact hcache
      · exact halias
    exact (hfill.off q fun hr => hdir' (hr.of_present (h.present q))).trans (h.off q hcache halias)
  present q hq := hfill.present q (h.present q hq)
  caches := h.caches

theorem artifactBytes (h : Still t₀ v) {path : String}
    (hcache : ∀ q ∈ Files.textTrail v.setup.cwd (Files.expandHome v.setup.home path),
      ¬ t₀.Reserved v.setup.cache.root q)
    (halias : ∀ q ∈ Files.textTrail v.setup.cwd (Files.expandHome v.setup.home path),
      ¬ t₀.Reserved v.setup.aliasDir q) (clock : Nat) :
    v.artifactBytes path = (Service.start v.setup t₀ clock).artifactBytes path := by
  have hsetup : v.setup = (Service.start v.setup t₀ clock).setup := rfl
  refine artifactBytes_congr hsetup fun q hq => ?_
  have hout : ¬ v.setup.aliasDir <+: q := fun hp => halias q hq (.inl hp)
  have hstart : (Service.start v.setup t₀ clock).node? q = t₀.node? q := node?_of_outside hout
  rw [node?_of_outside hout, hstart]
  exact h.off q (hcache q hq) (halias q hq)

theorem of_sessions {v' : Service} (h : Still t₀ v) (hcache : v'.setup.cache = v.setup.cache)
    (halias : v'.setup.aliasDir = v.setup.aliasDir) (hfiles : v'.files = v.files)
    (hsessions : ∀ p s, v'.session? p = some s → s.cache = v.setup.cache) : Still t₀ v' where
  off := by
    rw [hcache, halias, hfiles]
    exact h.off
  present := by
    rw [hfiles]
    exact h.present
  caches := by
    rw [hcache]
    exact hsessions

theorem load (h : Still t₀ v) (path : String) (settings : Settings) :
    Still t₀ (v.load path settings).2 := by
  have hfiles : Still t₀ { v with files := (v.load path settings).2.files } := by
    rcases load_files v path settings with hfiles | hfiles
    · rw [hfiles]
      exact h
    · rw [hfiles]
      exact h.fill (.inr rfl) (Tree.filledBelow_makeDirs ..)
  refine hfiles.of_sessions ?_ ?_ rfl fun p s hs => ?_
  · rw [load_setup]
  · rw [load_setup]
  · cases hload : v.load path settings with
    | mk result v' =>
      rw [hload] at hs
      cases result with
      | error f =>
        obtain ⟨files, rfl⟩ := load_error hload
        exact h.caches p s hs
      | ok t =>
        obtain ⟨bytes, engine, count, files, -, -, -, rfl, rfl⟩ := load_ok hload
        rcases session?_register hs with ⟨-, rfl⟩ | hs
        · rfl
        · exact h.caches p s hs

theorem dispatch (h : Still t₀ v) (id method : String) (args : Json) :
    Still t₀ (v.dispatch id method args).2 := by
  have hkeeps := keeps_call v id method args
  have hfiles : Still t₀ { v with files := (v.call id method args).2.files } := by
    rcases call_files v id method args with hfiles | ⟨p, s, e, hs, -, hstores⟩
    · rw [hfiles]
      exact h
    · have hcache : s.cache.root = v.setup.cache.root := congrArg Cache.root (h.caches p s hs)
      exact h.fill (.inl hcache) hstores.filledBelow
  refine hfiles.of_sessions ?_ ?_ rfl fun p s hs => ?_
  · exact congrArg Setup.cache hkeeps.setup
  · exact congrArg Setup.aliasDir hkeeps.setup
  · obtain ⟨s₀, hs₀, hstage⟩ := hkeeps.session?_of hs
    exact hstage.cache.trans (h.caches p s₀ hs₀)

theorem close (h : Still t₀ v) (id : String) : Still t₀ (v.close id).2 := by
  refine h.of_sessions ?_ ?_ (close_files v id) fun p s hs => ?_
  · rw [close_setup]
  · rw [close_setup]
  · rcases session?_close hs with hbefore | ⟨s₀, hs₀, rfl⟩
    · exact h.caches p s hbefore
    · exact h.caches p s₀ hs₀

theorem drawing (h : Still t₀ v) (e : Event) : Still t₀ (v.drawing e) :=
  ⟨h.off, h.present, h.caches⟩

/-- The draws for an event are undone in the end. -/
theorem undraw {v' : Service} {e : Event} (h : Still t₀ v')
    (hsetup : v'.setup = (v.drawing e).setup) : Still t₀ { v' with setup := v.setup } := by
  refine h.of_sessions ?_ ?_ rfl h.caches
  · rw [hsetup]
    rfl
  · rw [hsetup]
    rfl

theorem step (h : Still t₀ v) {e : Event} (he : e.IsOfService) :
    Still t₀ (Service.step Service.dispatch v e).2 := by
  have hdrawn := h.drawing e
  obtain ⟨now, fresh, a⟩ := e
  cases a with
  | load path settings => exact (hdrawn.load path settings).undraw (load_setup ..)
  | dispatch id method args =>
    exact (hdrawn.dispatch id method args).undraw (keeps_call _ id method args).setup
  | close id => exact (hdrawn.close id).undraw (close_setup ..)
  | edit path node => exact absurd he id

theorem hashedBy (h : Still t₀ v) {e : Event}
    (hcache : e.Avoids v.setup (t₀.Reserved v.setup.cache.root))
    (halias : e.Avoids v.setup (t₀.Reserved v.setup.aliasDir)) (clock : Nat) :
    v.hashedBy e.action = (Service.start v.setup t₀ clock).hashedBy e.action := by
  obtain ⟨now, fresh, a⟩ := e
  cases a with
  | load path settings =>
    have hbuild : ∀ bytes, v.buildEngine path bytes settings =
      (Service.start v.setup t₀ clock).buildEngine path bytes settings := fun _ => rfl
    simp only [Service.hashedBy, h.artifactBytes hcache halias clock, hbuild]
  | _ => rfl

/-- What is hashed is known from the start. -/
theorem hashed_eq (h : Still t₀ v) {es : List Event} (hservice : ∀ e ∈ es, e.IsOfService)
    (hcache : ∀ e ∈ es, e.Avoids v.setup (t₀.Reserved v.setup.cache.root))
    (halias : ∀ e ∈ es, e.Avoids v.setup (t₀.Reserved v.setup.aliasDir)) (clock : Nat) :
    hashed v es =
      es.flatMap fun e => (Service.start v.setup t₀ clock).hashedBy e.action := by
  induction es generalizing v with
  | nil => rfl
  | cons e es ih =>
    obtain ⟨he, hes⟩ := List.forall_mem_cons.1 hservice
    obtain ⟨hc, hcs⟩ := List.forall_mem_cons.1 hcache
    obtain ⟨ha, has⟩ := List.forall_mem_cons.1 halias
    rw [hashed, List.flatMap_cons, h.hashedBy hc ha clock, ih (h.step he) hes hcs has]
    rfl

end Still

/-- A run of some of the events hashes some of the strings. -/
theorem hashed_filter_subset {setup : Setup} {t₀ : Tree} (clock : Nat) {es : List Event}
    (hservice : ∀ e ∈ es, e.IsOfService)
    (hcache : ∀ e ∈ es, e.Avoids setup (t₀.Reserved setup.cache.root))
    (halias : ∀ e ∈ es, e.Avoids setup (t₀.Reserved setup.aliasDir)) (keep : Event → Bool) :
    hashed (start setup t₀ clock) (es.filter keep) ⊆ hashed (start setup t₀ clock) es := by
  have hstill := Still.start setup t₀ clock
  have hsome : ∀ e ∈ es.filter keep, e ∈ es := fun e he => (List.mem_filter.1 he).1
  rw [hstill.hashed_eq hservice hcache halias clock,
    hstill.hashed_eq (fun e he => hservice e (hsome e he)) (fun e he => hcache e (hsome e he))
      (fun e he => halias e (hsome e he)) clock]
  intro x hx
  obtain ⟨e, he, hxe⟩ := List.mem_flatMap.1 hx
  exact List.mem_flatMap.2 ⟨e, hsome e he, hxe⟩

end Service
end DexQuery
