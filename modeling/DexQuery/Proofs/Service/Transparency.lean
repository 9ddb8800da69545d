import DexQuery.Proofs.Cache.Key
import DexQuery.Proofs.Service.Lifecycle
import DexQuery.Proofs.Service.Run

/-!
# The cache is transparent

A service with a cache and one without go through the same run in lockstep. They differ in their
files, and only in those that belong to the directory of the cache (`Lockstep.off`), which may hold
the alias directory too (`Lockstep.aliases`, `Lockstep.made`). What is found in the cache under a
key is what the one engine with that key says (`Lockstep.found`), and every session has the engine
of its key (`Lockstep.sessions`); so no session, whoever filled the cache, is told anything by it
that its own engine would not say.

A key stands for one engine since the strings that are hashed have different digests
(`Stamped.unique`).
-/

namespace DexQuery
namespace Service

open Files (Tree Path)

/-! ## The engine of a key -/

/-- The engine is one that sessions with the key have: that of an artifact whose bytes, and whose
text with the settings, have been hashed. -/
def Stamped (seen : List Hashed) (key : String) (e : Engine) : Prop :=
  ∃ bytes settings, Export.engineOfBytes bytes = .ok e ∧
    key = CacheKey.of (Sha256.hex bytes) e.version settings ∧ .artifact bytes ∈ seen ∧
      .material (CacheKey.material (Sha256.hex bytes) e.version settings) ∈ seen

theorem Stamped.mono {seen seen' : List Hashed} {key : String} {e : Engine}
    (h : Stamped seen key e) (hseen : seen ⊆ seen') : Stamped seen' key e := by
  obtain ⟨bytes, settings, he, hkey, hbytes, hmaterial⟩ := h
  exact ⟨bytes, settings, he, hkey, hseen hbytes, hseen hmaterial⟩

theorem Stamped.unique {seen : List Hashed} {key : String} {e e' : Engine}
    (hcoll : NoCollision seen) (h : Stamped seen key e) (h' : Stamped seen key e') : e = e' := by
  obtain ⟨bytes, settings, he, rfl, hbytes, hmaterial⟩ := h
  obtain ⟨bytes', settings', he', hkey, hbytes', hmaterial'⟩ := h'
  obtain ⟨hhash, -⟩ := (CacheKey.material_eq_iff (Sha256.bar_notMem_hex _)
    (Sha256.bar_notMem_hex _)).1 (hcoll.materials _ _ hmaterial hmaterial' hkey)
  obtain rfl := hcoll.artifacts _ _ hbytes hbytes' hhash
  exact Except.ok.inj (he.symm.trans he')

/-! ## Lockstep -/

/-- A service `r` without a cache, and the `files` that a service with one has where that is
otherwise the same. They started from the files `t₀`, and the strings `seen` have been hashed. -/
structure Lockstep (t₀ : Tree) (seen : List Hashed) (r : Service) (files : Tree) : Prop where
  off : ∀ q, ¬ t₀.Reserved r.setup.cache.root q → files.node? q = r.files.node? q
  present : ∀ q, t₀.node? q ≠ none → files.node? q ≠ none
  aliases : ∀ q, q <+: r.setup.aliasDir → files.node? q = r.files.node? q
  made : r.loaded ≠ [] → ∀ q, q <+: r.setup.aliasDir → t₀.Reserved r.setup.cache.root q →
    files.node? q = some .dir
  found : ∀ key b name text, r.setup.cache.get files key b name = some text →
    ∃ e, Stamped seen key e ∧ e.unitText b ⟨name⟩ = .ok (some text)
  sessions : ∀ p s e, r.session? p = some s → s.engine = some e →
    s.cache = r.setup.cache ∧ Stamped seen s.cacheKey e

namespace Lockstep

variable {t₀ : Tree} {seen seen' : List Hashed} {r r' : Service} {files files' : Tree}

theorem start {setup : Setup} (hempty : setup.cache.IsEmpty t₀) (clock : Nat) :
    Lockstep t₀ [] (Service.start setup t₀ clock) t₀ where
  off _ _ := rfl
  present _ h := h
  aliases _ _ := rfl
  made h := absurd rfl h
  found key b name text h := by
    rw [show (Service.start setup t₀ clock).setup.cache = setup.cache from rfl, hempty] at h
    cases h
  sessions p s e h := by simp [session?, Service.start] at h

theorem mono (h : Lockstep t₀ seen r files) (hseen : seen ⊆ seen') :
    Lockstep t₀ seen' r files where
  off := h.off
  present := h.present
  aliases := h.aliases
  made := h.made
  found key b name text hget := by
    obtain ⟨e, hstamped, htext⟩ := h.found key b name text hget
    exact ⟨e, hstamped.mono hseen, htext⟩
  sessions p s e hs he := by
    obtain ⟨hcache, hstamped⟩ := h.sessions p s e hs he
    exact ⟨hcache, hstamped.mono hseen⟩

/-- Only the cache and the alias directory of the setup matter, and the clock does not. -/
theorem of_sessions (h : Lockstep t₀ seen r files) (hcache : r'.setup.cache = r.setup.cache)
    (halias : r'.setup.aliasDir = r.setup.aliasDir) (hfiles : r'.files = r.files)
    (hloaded : r.loaded = [] → r'.loaded = [])
    (hsessions : ∀ p s e, r'.session? p = some s → s.engine = some e →
      s.cache = r.setup.cache ∧ Stamped seen s.cacheKey e) :
    Lockstep t₀ seen r' files where
  off := by
    rw [hcache, hfiles]
    exact h.off
  present := h.present
  aliases := by
    rw [halias, hfiles]
    exact h.aliases
  made hne := by
    rw [halias, hcache]
    exact h.made fun hnil => hne (hloaded hnil)
  found := by
    rw [hcache]
    exact h.found
  sessions := by
    rw [hcache]
    exact hsessions

/-! ### Files -/

theorem makeDirs (h : Lockstep t₀ seen r files) :
    (files.makeDirs r.setup.aliasDir).1 = (r.files.makeDirs r.setup.aliasDir).1 ∧
      Lockstep t₀ seen { r with files := (r.files.makeDirs r.setup.aliasDir).2 }
        (files.makeDirs r.setup.aliasDir).2 := by
  have hmade := Tree.madeOn_makeDirs files r.setup.aliasDir
  obtain ⟨hresult, hnodes⟩ := Tree.makeDirs_congr h.aliases
  refine ⟨hresult, fun q hq => hnodes q (h.off q hq), fun q hq => hmade.present (h.present q hq),
    fun q hq => hnodes q (h.aliases q hq), fun hne q hq hr => hmade.some (h.made hne q hq hr),
    fun key b name text hget => ?_, h.sessions⟩
  have hsame : r.setup.cache.get (files.makeDirs r.setup.aliasDir).2 key b name =
      r.setup.cache.get files key b name := Cache.get_congr fun _ _ _ => hmade.file_iff
  exact h.found key b name text (hsame ▸ hget)

/-- What a session stores in the cache is seen by the cache alone. -/
theorem stores (h : Lockstep t₀ seen r files) (hloaded : r.loaded ≠ []) {s : Session} {e : Engine}
    (hcache : s.cache = r.setup.cache) (hstamped : Stamped seen s.cacheKey e)
    (hstores : s.Stores e files files') : Lockstep t₀ seen r files' := by
  have hfill : files.FilledBelow r.setup.cache.root files' := hcache ▸ hstores.filledBelow
  have hoff : ∀ q, ¬ t₀.Reserved r.setup.cache.root q → files'.node? q = r.files.node? q := by
    intro q hq
    rw [hfill.off q fun hr => hq (hr.of_present (h.present q)), h.off q hq]
  refine ⟨hoff, fun q hq => hfill.present q (h.present q hq), fun q hq => ?_,
    fun hne q hq hr => hfill.dirs q (h.made hne q hq hr), fun key b name text hget => ?_,
    h.sessions⟩
  · -- A part of the alias directory that the cache could touch is a directory already.
    by_cases hr : t₀.Reserved r.setup.cache.root q
    · have hdir := h.made hloaded q hq hr
      rw [hfill.dirs q hdir, ← hdir, h.aliases q hq]
    · exact hoff q hr
  · rw [← hcache] at hget
    rcases hstores.get_eq_some hget with hbefore | ⟨rfl, hown⟩
    · exact h.found key b name text (hcache ▸ hbefore)
    · exact ⟨e, hstamped, hown⟩

theorem edit (h : Lockstep t₀ seen r files) {p : Path} {n : Files.Node}
    (hp : ¬ t₀.Reserved r.setup.cache.root p) :
    Lockstep t₀ seen { r with files := r.files.set p n } (files.set p n) where
  off q hq := Tree.node?_set_congr (h.off q hq) p n
  present q hq := by
    by_cases hpq : p = q
    · subst hpq
      by_cases hnil : p = []
      · simp [hnil]
      · rw [files.node?_set_self hnil]
        simp
    · rw [files.node?_set_of_ne hpq]
      exact h.present q hq
  aliases q hq := Tree.node?_set_congr (h.aliases q hq) p n
  made hne q hq hr := by
    have hpq : p ≠ q := by
      rintro rfl
      exact hp hr
    exact (files.node?_set_of_ne hpq n).trans (h.made hne q hq hr)
  found key b name text hget := by
    have hsame : r.setup.cache.get (files.set p n) key b name =
        r.setup.cache.get files key b name := by
      refine Cache.get_congr fun q _ bytes => ?_
      rw [files.node?_set_of_ne fun hpq => hp (.inl ⟨q, hpq.symm⟩)]
    exact h.found key b name text (hsame ▸ hget)
  sessions := h.sessions

/-! ### Loading -/

/-- Both services look at the same nodes on the way to an artifact. -/
theorem artifactBytes (h : Lockstep t₀ seen r files) {path : String}
    (havoids : ∀ q ∈ Files.textTrail r.setup.cwd (Files.expandHome r.setup.home path),
      ¬ t₀.Reserved r.setup.cache.root q) :
    ({ r with files := files } : Service).artifactBytes path = r.artifactBytes path := by
  have hsetup : ({ r with files := files } : Service).setup = r.setup := rfl
  refine artifactBytes_congr hsetup fun q hq => ?_
  simp only [Service.node?, h.off q (havoids q hq)]

theorem register (h : Lockstep t₀ seen r files)
    (hdirs : ∀ q, q <+: r.setup.aliasDir → files.node? q = some .dir) {s : Session}
    (hs : ∀ e, s.engine = some e → s.cache = r.setup.cache ∧ Stamped seen s.cacheKey e) :
    Lockstep t₀ seen (r.register s) files where
  off := h.off
  present := h.present
  aliases := h.aliases
  made _ q hq _ := hdirs q hq
  found := h.found
  sessions p t e ht he := by
    rcases session?_register ht with ⟨-, rfl⟩ | ht
    · exact hs e he
    · exact h.sessions p t e ht he

theorem load (h : Lockstep t₀ seen r files) (hfactory : r.setup.factory = Export.factory)
    {path : String} {settings : Settings}
    (havoids : ∀ q ∈ Files.textTrail r.setup.cwd (Files.expandHome r.setup.home path),
      ¬ t₀.Reserved r.setup.cache.root q) :
    ∃ files', ({ r with files := files } : Service).load path settings =
        ((r.load path settings).1, { (r.load path settings).2 with files := files' }) ∧
      (r.load path settings).2.setup = r.setup ∧
      Lockstep t₀ (seen ++ r.hashedBy (.load path settings)) (r.load path settings).2 files' := by
  have hbuild : ∀ bytes, ({ r with files := files } : Service).buildEngine path bytes settings =
      r.buildEngine path bytes settings := fun _ => rfl
  simp only [Service.load, h.artifactBytes havoids, hbuild, Service.hashedBy]
  cases r.artifactBytes path with
  | error f => exact ⟨files, rfl, rfl, h.mono (List.subset_append_left _ _)⟩
  | ok bytes =>
    dsimp only
    cases hengine : r.buildEngine path bytes settings with
    | error f => exact ⟨files, rfl, rfl, h.mono (List.subset_append_left _ _)⟩
    | ok built =>
      obtain ⟨engine, count⟩ := built
      dsimp only
      obtain ⟨hresult, hafter⟩ := h.makeDirs
      have hdirs := fun hok q =>
        Tree.node?_makeDirs (q := q) (t := files) (p := r.setup.aliasDir) hok
      cases hmade : files.makeDirs r.setup.aliasDir with
      | mk result files' =>
        cases hmade' : r.files.makeDirs r.setup.aliasDir with
        | mk result' files'' =>
          rw [hmade, hmade'] at hresult hafter
          rw [hmade] at hdirs
          obtain rfl : result = result' := hresult
          have hafter' := hafter.mono (List.subset_append_left seen
            [.artifact bytes,
              .material (CacheKey.material (Sha256.hex bytes) engine.version settings)])
          cases result with
          | error e => exact ⟨files', rfl, rfl, hafter'⟩
          | ok _ =>
            refine ⟨files', rfl, rfl, hafter'.register (fun q hq => hdirs rfl q hq) fun e he => ?_⟩
            obtain rfl := Option.some.inj he
            have hbytes := engineOfBytes_of_buildEngine hfactory hengine
            refine ⟨rfl, bytes, settings, hbytes, rfl, ?_, ?_⟩
            · simp
            · simp

/-! ### Calling and closing -/

/-- What a session finds in the cache is what its engine would say. -/
theorem faithful (h : Lockstep t₀ seen r files) (hcoll : NoCollision seen) {p : Nat} {s : Session}
    (hs : r.session? p = some s) {e : Engine} (he : s.engine = some e) :
    s.Faithful e files := by
  obtain ⟨hcache, hstamped⟩ := h.sessions p s e hs he
  intro b t text hget
  rw [hcache] at hget
  obtain ⟨e', hstamped', htext⟩ := h.found _ b t.raw text hget
  obtain rfl := hstamped.unique hcoll hstamped'
  exact htext

theorem dispatch (h : Lockstep t₀ seen r files) (hcoll : NoCollision seen) (id method : String)
    (args : Json) : ∃ files',
      (({ r with files := files } : Service).dispatch id method args).2 =
        { (r.dispatchUncached id method args).2 with files := files' } ∧
      (({ r with files := files } : Service).dispatch id method args).1.silent =
        (r.dispatchUncached id method args).1.silent ∧
      (r.dispatchUncached id method args).2.setup = r.setup ∧
      Lockstep t₀ seen (r.dispatchUncached id method args).2 files' := by
  have hfound : ({ r with files := files } : Service).found? id = r.found? id := rfl
  simp only [Service.dispatch, dispatchUncached]
  cases hr : Request.ofCall method args with
  | error f =>
    rw [call_of_unread hr, callUncached_of_unread hr]
    exact ⟨files, rfl, rfl, rfl, h⟩
  | ok req =>
    cases hf : r.found? id with
    | none =>
      rw [call_of_not_found hr (hfound.trans hf), callUncached_of_not_found hr hf]
      exact ⟨files, rfl, rfl, rfl, h⟩
    | some found =>
      obtain ⟨p, s⟩ := found
      obtain ⟨-, hs⟩ := found?_eq_some_iff.1 hf
      have hfaithful : ∀ e, (s.touch r.clock).engine = some e →
          (s.touch r.clock).Faithful e files := fun e he => h.faithful hcoll hs he
      obtain ⟨hanswer, hsession⟩ := Session.run_uncached hfaithful req
      rw [call_of_found hr (hfound.trans hf), callUncached_of_found hr hf]
      refine ⟨((s.touch r.clock).run files req).2.2, ?_, Envelope.silent_ofResult hanswer, rfl, ?_⟩
      · rw [hsession]
        rfl
      · have hloaded : r.loaded ≠ [] := by
          intro hnil
          simp [session?, hnil] at hs
        have hafter : Lockstep t₀ seen r ((s.touch r.clock).run files req).2.2 := by
          rcases (s.touch r.clock).stores_run files req with heq | ⟨e, he, hstores⟩
          · rwa [heq]
          · obtain ⟨hcache, hstamped⟩ := h.sessions p s e hs he
            exact h.stores hloaded hcache hstamped hstores
        refine hafter.of_sessions rfl rfl rfl (fun hnil => absurd hnil hloaded) ?_
        intro q t e ht he
        obtain ⟨aliases, hsame⟩ := (s.touch r.clock).runUncached_eq req
        rw [hsame] at ht
        by_cases hpq : p = q
        · subst hpq
          have ht' := (session?_setSession_self (session?_lt hs) _).symm.trans ht
          obtain rfl := Option.some.inj ht'
          exact h.sessions p s e hs he
        · have ht' := (session?_setSession_of_ne hpq _).symm.trans ht
          exact h.sessions q t e ht' he

theorem close (h : Lockstep t₀ seen r files) (id : String) :
    ({ r with files := files } : Service).close id =
        ((r.close id).1, { (r.close id).2 with files := files }) ∧
      (r.close id).2.setup = r.setup ∧ Lockstep t₀ seen (r.close id).2 files := by
  have hplace : ({ r with files := files } : Service).place? id = r.place? id := rfl
  cases hid : r.place? id with
  | none =>
    rw [close_of_none hid, close_of_none (hplace.trans hid)]
    exact ⟨rfl, rfl, h⟩
  | some p =>
    have hsessions : ∀ q s e, (r.close id).2.session? q = some s → s.engine = some e →
        s.cache = r.setup.cache ∧ Stamped seen s.cacheKey e := by
      intro q s e hs he
      rcases session?_close hs with hbefore | ⟨s₀, -, rfl⟩
      · exact h.sessions q s e hbefore he
      · cases he
    rw [close_of_some hid] at hsessions
    rw [close_of_some hid, close_of_some (hplace.trans hid)]
    refine ⟨rfl, rfl, h.of_sessions rfl rfl rfl (fun hnil => ?_) hsessions⟩
    simp [hnil]

/-! ### Runs -/

theorem hashedBy (h : Lockstep t₀ seen r files) {e : Event}
    (havoids : e.Avoids r.setup (t₀.Reserved r.setup.cache.root)) :
    ({ r with files := files } : Service).hashedBy e.action = r.hashedBy e.action := by
  obtain ⟨now, fresh, a⟩ := e
  cases a with
  | load path settings =>
    have hbuild : ∀ bytes, ({ r with files := files } : Service).buildEngine path bytes settings =
      r.buildEngine path bytes settings := fun _ => rfl
    simp only [Service.hashedBy, h.artifactBytes havoids, hbuild]
  | _ => rfl

theorem drawing (h : Lockstep t₀ seen r files) (e : Event) :
    Lockstep t₀ seen (r.drawing e) files := h.of_sessions rfl rfl rfl id h.sessions

/-- The draws for an event are undone in the end. -/
theorem undraw {e : Event} (h : Lockstep t₀ seen r' files)
    (hsetup : r'.setup = (r.drawing e).setup) :
    Lockstep t₀ seen { r' with setup := r.setup } files := by
  refine h.of_sessions ?_ ?_ rfl id h.sessions
  · rw [hsetup]
    rfl
  · rw [hsetup]
    rfl

/-- Both services give the same answer but for the warnings, and go on in lockstep. -/
theorem step (h : Lockstep t₀ seen r files) (hfactory : r.setup.factory = Export.factory)
    (hcoll : NoCollision seen) {e : Event}
    (havoids : e.Avoids r.setup (t₀.Reserved r.setup.cache.root)) :
    ∃ files',
      (Service.step Service.dispatch { r with files := files } e).2 =
        { (Service.step dispatchUncached r e).2 with files := files' } ∧
      (Service.step Service.dispatch { r with files := files } e).1.silent =
        (Service.step dispatchUncached r e).1.silent ∧
      Lockstep t₀ (seen ++ r.hashedBy e.action) (Service.step dispatchUncached r e).2 files' := by
  have hdrawn := h.drawing e
  obtain ⟨now, fresh, a⟩ := e
  cases a with
  | load path settings =>
    obtain ⟨files', hload, hsetup, hafter⟩ := hdrawn.load hfactory havoids
    have hanswer := congrArg (fun x => Answer.loaded x.1) hload
    refine ⟨files', ?_, hanswer, hafter.undraw hsetup⟩
    exact congrArg (fun x : _ × Service => { x.2 with setup := r.setup }) hload
  | dispatch id method args =>
    obtain ⟨files', hafter, hanswer, hsetup, hstep⟩ := hdrawn.dispatch hcoll id method args
    refine ⟨files', ?_, congrArg Answer.called hanswer, ?_⟩
    · exact congrArg (fun x : Service => { x with setup := r.setup }) hafter
    · exact (hstep.undraw hsetup).mono (List.subset_append_left _ _)
  | close id =>
    obtain ⟨hclose, hsetup, hstep⟩ := hdrawn.close id
    have hanswer := congrArg (fun x => Answer.closed x.1) hclose
    refine ⟨files, ?_, hanswer, (hstep.undraw hsetup).mono (List.subset_append_left _ _)⟩
    exact congrArg (fun x : _ × Service => { x.2 with setup := r.setup }) hclose
  | edit path node =>
    have hpath : ¬ t₀.Reserved r.setup.cache.root path := havoids
    have hedited := (hdrawn.edit (n := node) hpath).undraw rfl
    exact ⟨_, rfl, rfl, hedited.mono (List.subset_append_left _ _)⟩

theorem answers (h : Lockstep t₀ seen r files) (hfactory : r.setup.factory = Export.factory)
    {es : List Event}
    (havoids : ∀ e ∈ es, e.Avoids r.setup (t₀.Reserved r.setup.cache.root))
    (hcoll : NoCollision (seen ++ hashed { r with files := files } es)) :
    (Service.answers Service.dispatch { r with files := files } es).map Answer.silent =
      (Service.answers dispatchUncached r es).map Answer.silent := by
  induction es generalizing seen r files with
  | nil => rfl
  | cons e es ih =>
    obtain ⟨he, hes⟩ := List.forall_mem_cons.1 havoids
    obtain ⟨files', hafter, hanswer, hstep⟩ :=
      h.step hfactory (hcoll.mono (List.subset_append_left _ _)) he
    rw [hashed, hafter, h.hashedBy he, ← List.append_assoc] at hcoll
    rw [Service.answers, Service.answers, List.map_cons, List.map_cons, hanswer, hafter]
    exact congrArg _ (ih hstep hfactory hes hcoll)

/-- Both services are in lockstep after a run. -/
theorem after (h : Lockstep t₀ seen r files) (hfactory : r.setup.factory = Export.factory)
    {es : List Event}
    (havoids : ∀ e ∈ es, e.Avoids r.setup (t₀.Reserved r.setup.cache.root))
    (hcoll : NoCollision (seen ++ hashed { r with files := files } es)) :
    ∃ files', Service.after Service.dispatch { r with files := files } es =
        { Service.after dispatchUncached r es with files := files' } ∧
      Lockstep t₀ (seen ++ hashed { r with files := files } es)
        (Service.after dispatchUncached r es) files' := by
  induction es generalizing seen r files with
  | nil =>
    rw [hashed, List.append_nil]
    exact ⟨files, rfl, h⟩
  | cons e es ih =>
    obtain ⟨he, hes⟩ := List.forall_mem_cons.1 havoids
    obtain ⟨files', hafter, -, hstep⟩ :=
      h.step hfactory (hcoll.mono (List.subset_append_left _ _)) he
    rw [hashed, hafter, h.hashedBy he, ← List.append_assoc] at hcoll ⊢
    rw [Service.after, Service.after, hafter]
    exact ih hstep hfactory hes hcoll

end Lockstep

/-- **The cache is transparent.** Whatever is loaded, asked and closed in whatever order, and
whatever is written elsewhere meanwhile, every answer of a service whose cache was empty at first is
that of a service without a cache, but for the warnings. -/
theorem answers_uncached {setup : Setup} (hfactory : setup.factory = Export.factory) {t₀ : Tree}
    (hempty : setup.cache.IsEmpty t₀) (clock : Nat) {es : List Event}
    (havoids : ∀ e ∈ es, e.Avoids setup (t₀.Reserved setup.cache.root))
    (hcoll : NoCollision (hashed (start setup t₀ clock) es)) :
    (answers Service.dispatch (start setup t₀ clock) es).map Answer.silent =
      (answers dispatchUncached (start setup t₀ clock) es).map Answer.silent :=
  (Lockstep.start hempty clock).answers hfactory havoids hcoll

/-! ### A sample -/

/-- A call at a time. -/
def callAt (now : Nat) (id method : String) (args : List (String × Json)) : Event :=
  ⟨now, "", .dispatch id method (.ofMembers args)⟩

/-- Two sessions about one export share a cache key. Both ask for sources, of which one cannot be
stored; one session is renamed in and closed, the other goes on. -/
def sampleRun : List Event :=
  [⟨0, "x", .load "a" .default⟩, ⟨1, "y", .load "a" .default⟩,
    callAt 2 "x" "decompile_class" [("type_id", .string "Lp/A;")],
    callAt 3 "y" "decompile_class" [("type_id", .string "Lp/A;")],
    callAt 4 "x" "rename" [("id", .string "Lp/A;"), ("alias", .string "Main")],
    callAt 5 "x" "decompile_class" [("type_id", .string "Lp//B;")], ⟨6, "", .close "x"⟩,
    callAt 7 "y" "decompile_class" [("type_id", .string "Lp//B;")], callAt 8 "y" "list_types" [],
    callAt 9 "y" "search_strings" [("query", .string "A")]]

theorem isEmpty_sample : sampleSetup.cache.IsEmpty sampleFiles :=
  Cache.isEmpty_of_nodes (by decide)

/-- The text of the key of both sessions. -/
def sampleKeyText : String := CacheKey.material (Sha256.hex sampleExport.toUTF8) "1" .default

theorem hashed_sampleRun : hashed sample sampleRun =
    [.artifact sampleExport.toUTF8, .material sampleKeyText, .artifact sampleExport.toUTF8,
      .material sampleKeyText] := by
  decide +kernel

theorem noCollision_sampleRun : NoCollision (hashed sample sampleRun) := by
  rw [hashed_sampleRun]
  exact .of_single sampleExport.toUTF8 sampleKeyText (by simp)

/-- All that is asked in the sample is answered as without a cache. -/
theorem answers_uncached_sample :
    (answers Service.dispatch (start sampleSetup sampleFiles 0) sampleRun).map Answer.silent =
      (answers dispatchUncached (start sampleSetup sampleFiles 0) sampleRun).map Answer.silent :=
  answers_uncached rfl isEmpty_sample 0 (by decide +kernel) noCollision_sampleRun

end Service
end DexQuery
