import DexQuery.Engine.Snapshot
import DexQuery.Proofs.Answer.Failure
import DexQuery.Proofs.Files.Tree
import DexQuery.Service.Basic

/-!
# The registry and the sessions it leads to

A service is looked at through two functions: `session?` gives the session at a place and `place?`
the place that an id is registered for. The first section says what each operation does to them.

A session is `Live` while it has its engine and its aliases and `Dead` once it has neither. Only
`register` and `close` change the registry or the stage of a session; everything else `Keeps` both.
-/

namespace DexQuery

/-! ## Stages -/

/-- The store is connected to its file. -/
def AliasStore.Live (a : AliasStore) : Prop := ∃ rows, a = ⟨some rows, true⟩

/-- The session is in use: it can answer, and its aliases are in their file. -/
structure Session.Live (s : Session) : Prop where
  active : s.status = .active
  engine : s.engine.isSome = true
  aliases : s.aliases.Live

/-- The session has ended: it cannot answer, and its aliases are gone with their file. -/
structure Session.Dead (s : Session) : Prop where
  closed : s.status = .closed
  engine : s.engine = none
  aliases : s.aliases = .absent

/-- `s'` is the session `s` at the same stage of its life. -/
structure Session.SameStage (s s' : Session) : Prop where
  id : s'.id = s.id
  cache : s'.cache = s.cache
  engine : s'.engine = s.engine
  live : s.Live → s'.Live
  dead : s.Dead → s'.Dead

namespace Session

theorem SameStage.refl (s : Session) : s.SameStage s := ⟨rfl, rfl, rfl, fun h => h, fun h => h⟩

theorem SameStage.trans {s s' s'' : Session} (h : s.SameStage s') (h' : s'.SameStage s'') :
    s.SameStage s'' :=
  ⟨h'.id.trans h.id, h'.cache.trans h.cache, h'.engine.trans h.engine,
    fun hs => h'.live (h.live hs), fun hs => h'.dead (h.dead hs)⟩

theorem sameStage_touch (s : Session) (now : Nat) : s.SameStage (s.touch now) :=
  ⟨rfl, rfl, rfl, fun h => ⟨h.active, h.engine, h.aliases⟩,
    fun h => ⟨h.closed, h.engine, h.aliases⟩⟩

theorem Live.close {s : Session} (h : s.Live) : s.close.Dead := by
  obtain ⟨rows, hrows⟩ := h.aliases
  refine ⟨rfl, rfl, ?_⟩
  simp [Session.close, hrows, AliasStore.release, AliasStore.absent]

theorem Live.rows {s : Session} (h : s.Live) : ∃ rows, s.aliases.rows = .ok rows := by
  obtain ⟨rows, hrows⟩ := h.aliases
  exact ⟨rows, by rw [hrows]; rfl⟩

/-- No question disconnects the alias store. -/
theorem runOn_aliases_live {s : Session} (h : s.aliases.Live) (e : Engine) (files : Files.Tree)
    (r : Request) : (s.runOn e files r).aliases.Live := by
  obtain ⟨rows, hrows⟩ := h
  cases r with
  | rename id name =>
    simp only [runOn, Result.ofAliases, Session.rename, AliasStore.upsert, hrows, AliasStore.rows]
    exact ⟨_, rfl⟩
  | removeRename id =>
    simp only [runOn, Result.ofAliases, Session.removeRename, AliasStore.remove, hrows,
      AliasStore.rows]
    exact ⟨_, rfl⟩
  | _ => exact ⟨rows, hrows⟩

theorem run_of_dead {s : Session} (h : s.Dead) (files : Files.Tree) (r : Request) :
    s.run files r = (.error .sessionClosed, s, files) := by
  simp only [run, h.engine]

theorem sameStage_run (s : Session) (files : Files.Tree) (r : Request) :
    s.SameStage (s.run files r).2.1 := by
  cases h : s.engine with
  | none =>
    rw [run, h]
    exact SameStage.refl s
  | some e =>
    rw [run_of_engine h]
    refine ⟨rfl, rfl, rfl,
      fun hs => ⟨hs.active, hs.engine, runOn_aliases_live hs.aliases e files r⟩, fun hs => ?_⟩
    rw [hs.engine] at h
    cases h

end Session

namespace Service

/-! ## What the operations do to places and sessions -/

theorem session?_lt {v : Service} {p : Nat} {s : Session} (h : v.session? p = some s) :
    p < v.loaded.length := (List.getElem?_eq_some_iff.1 h).1

theorem session?_setSession_self {v : Service} {p : Nat} (h : p < v.loaded.length) (s : Session) :
    (v.setSession p s).session? p = some s := by
  simp [session?, setSession, h]

theorem session?_setSession_of_ne {v : Service} {p q : Nat} (h : p ≠ q) (s : Session) :
    (v.setSession p s).session? q = v.session? q := by
  simp [session?, setSession, h]

theorem setSession_self {v : Service} {p : Nat} {s : Session} (h : v.session? p = some s) :
    v.setSession p s = v := by
  obtain ⟨hlt, hs⟩ := List.getElem?_eq_some_iff.1 h
  have hset : v.loaded.set p s = v.loaded := by rw [← hs, List.set_getElem_self]
  rw [setSession, hset]

theorem session?_register_self (v : Service) (s : Session) :
    (v.register s).session? v.loaded.length = some { s with status := .active } := by
  simp [session?, register]

theorem session?_register_of_lt {v : Service} {p : Nat} (h : p < v.loaded.length) (s : Session) :
    (v.register s).session? p = v.session? p := by
  simp [session?, register, List.getElem?_append_left h]

theorem session?_register {v : Service} {s s' : Session} {p : Nat}
    (h : (v.register s).session? p = some s') :
    (p = v.loaded.length ∧ s' = { s with status := .active }) ∨ v.session? p = some s' := by
  have hlt : p < v.loaded.length + 1 := by simpa [register] using session?_lt h
  rcases Nat.lt_succ_iff_lt_or_eq.1 hlt with hp | rfl
  · rw [session?_register_of_lt hp] at h
    exact .inr h
  · rw [session?_register_self] at h
    exact .inl ⟨rfl, (Option.some.inj h).symm⟩

theorem place?_register_self (v : Service) (s : Session) :
    (v.register s).place? s.id = some v.loaded.length := Keyed.get?_insert_self ..

theorem place?_register_of_ne {v : Service} {s : Session} {id : String} (h : s.id ≠ id) :
    (v.register s).place? id = v.place? id := Keyed.get?_insert_of_ne h ..

theorem close_of_none {v : Service} {id : String} (h : v.place? id = none) :
    v.close id = (false, v) := by
  simp only [close, h]

theorem close_of_some {v : Service} {id : String} {p : Nat} (h : v.place? id = some p) :
    v.close id = (true, { v with
      loaded := v.loaded.modify p Session.close
      registered := Keyed.erase id v.registered }) := by
  simp only [close, h]

theorem session?_close_self {v : Service} {id : String} {p : Nat} {s : Session}
    (h : v.place? id = some p) (hs : v.session? p = some s) :
    (v.close id).2.session? p = some s.close := by
  rw [close_of_some h]
  simp only [session?] at hs ⊢
  simp [hs]

theorem session?_close_of_ne {v : Service} {id : String} {p : Nat} (h : v.place? id ≠ some p) :
    (v.close id).2.session? p = v.session? p := by
  cases hid : v.place? id with
  | none => rw [close_of_none hid]
  | some q =>
    have hne : q ≠ p := fun hq => h (hq ▸ hid)
    rw [close_of_some hid]
    simp [session?, hne]

/-- A session after a closing is one from before, as it was or closed. -/
theorem session?_close {v : Service} {id : String} {p : Nat} {s : Session}
    (h : (v.close id).2.session? p = some s) :
    v.session? p = some s ∨ ∃ s₀, v.session? p = some s₀ ∧ s = s₀.close := by
  by_cases hp : v.place? id = some p
  · rw [close_of_some hp] at h
    simp only [session?, List.getElem?_modify_eq, Option.map_eq_map, Option.map_eq_some_iff] at h
    obtain ⟨s₀, hs₀, rfl⟩ := h
    exact .inr ⟨s₀, hs₀, rfl⟩
  · rw [session?_close_of_ne hp] at h
    exact .inl h

theorem close_setup (v : Service) (id : String) : (v.close id).2.setup = v.setup := by
  cases hid : v.place? id with
  | none => rw [close_of_none hid]
  | some p => rw [close_of_some hid]

theorem closeEach_setup (v : Service) (ids : List String) :
    (ids.foldl (fun v id => (v.close id).2) v).setup = v.setup := by
  induction ids generalizing v with
  | nil => rfl
  | cons id ids ih => exact (ih (v.close id).2).trans (close_setup v id)

theorem close_files (v : Service) (id : String) : (v.close id).2.files = v.files := by
  cases hid : v.place? id with
  | none => rw [close_of_none hid]
  | some p => rw [close_of_some hid]

theorem length_close (v : Service) (id : String) :
    (v.close id).2.loaded.length = v.loaded.length := by
  cases hid : v.place? id with
  | none => rw [close_of_none hid]
  | some q =>
    rw [close_of_some hid]
    exact List.length_modify ..

theorem length_closeEach (v : Service) (ids : List String) :
    (ids.foldl (fun v id => (v.close id).2) v).loaded.length = v.loaded.length := by
  induction ids generalizing v with
  | nil => rfl
  | cons id ids ih => rw [List.foldl_cons, ih, length_close]

theorem place?_close_self (v : Service) (id : String) : (v.close id).2.place? id = none := by
  cases hid : v.place? id with
  | none => rwa [close_of_none hid]
  | some q =>
    rw [close_of_some hid]
    exact Keyed.get?_erase_self ..

theorem place?_close_of_ne {v : Service} {id id' : String} (h : id ≠ id') :
    (v.close id).2.place? id' = v.place? id' := by
  cases hid : v.place? id with
  | none => rw [close_of_none hid]
  | some q =>
    rw [close_of_some hid]
    exact Keyed.get?_erase_of_ne h ..

/-! ## What changes neither the registry nor a stage -/

/-- `v'` has the sessions of `v`, registered as they were and at the same stages. -/
structure Keeps (v v' : Service) : Prop where
  setup : v'.setup = v.setup
  registered : v'.registered = v.registered
  length : v'.loaded.length = v.loaded.length
  sessions : ∀ p s, v.session? p = some s → ∃ s', v'.session? p = some s' ∧ s.SameStage s'

theorem Keeps.refl (v : Service) : v.Keeps v :=
  ⟨rfl, rfl, rfl, fun _ s h => ⟨s, h, .refl s⟩⟩

theorem Keeps.trans {v v' v'' : Service} (h : v.Keeps v') (h' : v'.Keeps v'') : v.Keeps v'' := by
  refine ⟨h'.setup.trans h.setup, h'.registered.trans h.registered, h'.length.trans h.length,
    fun p s hs => ?_⟩
  obtain ⟨s', hs', hstage⟩ := h.sessions p s hs
  obtain ⟨s'', hs'', hstage'⟩ := h'.sessions p s' hs'
  exact ⟨s'', hs'', hstage.trans hstage'⟩

theorem Keeps.place? {v v' : Service} (h : v.Keeps v') (id : String) :
    v'.place? id = v.place? id := by
  rw [Service.place?, Service.place?, h.registered]

/-- Every session afterwards was one before. -/
theorem Keeps.session?_of {v v' : Service} (h : v.Keeps v') {p : Nat} {s' : Session}
    (hs' : v'.session? p = some s') : ∃ s, v.session? p = some s ∧ s.SameStage s' := by
  have hlt : p < v.loaded.length := h.length ▸ session?_lt hs'
  have hs : v.session? p = some v.loaded[p] := List.getElem?_eq_getElem hlt
  obtain ⟨t, ht, hstage⟩ := h.sessions p _ hs
  obtain rfl := Option.some.inj (hs'.symm.trans ht)
  exact ⟨_, hs, hstage⟩

theorem keeps_setSession {v : Service} {p : Nat} {s s' : Session} (hs : v.session? p = some s)
    (h : s.SameStage s') : v.Keeps (v.setSession p s') := by
  refine ⟨rfl, rfl, by simp [setSession], fun q t ht => ?_⟩
  by_cases hq : p = q
  · subst hq
    obtain rfl := Option.some.inj (hs.symm.trans ht)
    exact ⟨s', session?_setSession_self (session?_lt hs) s', h⟩
  · exact ⟨t, by rw [session?_setSession_of_ne hq, ht], .refl t⟩

/-- Files and clock are not looked at. -/
theorem keeps_files_clock (v : Service) (files : Files.Tree) (clock : Nat) :
    v.Keeps { v with files := files, clock := clock } :=
  ⟨rfl, rfl, rfl, fun _ s h => ⟨s, h, .refl s⟩⟩

theorem access_eq_some {v v' : Service} {id : String} {p : Nat} {s : Session}
    (h : v.access id = some (p, s, v')) :
    v.place? id = some p ∧ ∃ s₀, v.session? p = some s₀ ∧ s = s₀.touch v.clock ∧
      v' = { v.setSession p s with clock := v.clock + 1 } := by
  unfold access at h
  split at h
  · simp at h
  · rename_i q hq
    split at h
    · simp at h
    · rename_i s₀ hs₀
      simp only [Option.some.injEq, Prod.mk.injEq] at h
      obtain ⟨rfl, rfl, rfl⟩ := h
      exact ⟨hq, s₀, hs₀, rfl, rfl⟩

theorem keeps_access {v v' : Service} {id : String} {p : Nat} {s : Session}
    (h : v.access id = some (p, s, v')) : v.Keeps v' := by
  obtain ⟨-, s₀, hs₀, rfl, rfl⟩ := access_eq_some h
  exact (keeps_setSession hs₀ (s₀.sameStage_touch _)).trans (keeps_files_clock _ _ _)

theorem runAt_eq {v : Service} {p : Nat} {s : Session} (h : v.session? p = some s) (r : Request) :
    v.runAt p r = ((s.run v.files r).1,
      { v.setSession p (s.run v.files r).2.1 with files := (s.run v.files r).2.2 }) := by
  simp only [runAt, h]

theorem keeps_runAt (v : Service) (p : Nat) (r : Request) : v.Keeps (v.runAt p r).2 := by
  cases h : v.session? p with
  | none =>
    simp only [runAt, h]
    exact Keeps.refl v
  | some s =>
    rw [runAt_eq h]
    exact (keeps_setSession h (s.sameStage_run _ _)).trans (keeps_files_clock _ _ _)

theorem keeps_call (v : Service) (id method : String) (args : Json) :
    v.Keeps (v.call id method args).2 := by
  unfold call
  split
  · exact Keeps.refl v
  · split
    · exact Keeps.refl v
    · rename_i p s v' ha
      exact (keeps_access ha).trans (keeps_runAt v' p _)

/-! ## What loading does -/

/-- Outside of the alias directory there are the files of the tree. -/
theorem node?_of_outside {v : Service} {q : Files.Path} (hq : ¬ v.setup.aliasDir <+: q) :
    v.node? q = v.files.node? q := by
  refine if_neg fun hany => ?_
  obtain ⟨s, -, hs⟩ := List.any_eq_true.1 hany
  obtain ⟨-, heq⟩ := Bool.and_eq_true_iff.1 hs
  exact hq ⟨_, (eq_of_beq heq).symm⟩

/-- Where an artifact is found hangs on the nodes on the way alone. -/
theorem artifactBytes_congr {v v' : Service} (hsetup : v'.setup = v.setup) {path : String}
    (h : ∀ q ∈ Files.textTrail v.setup.cwd (Files.expandHome v.setup.home path),
      v'.node? q = v.node? q) : v'.artifactBytes path = v.artifactBytes path := by
  rw [artifactBytes, artifactBytes, hsetup, Files.resolve_congr h]

theorem load_setup (v : Service) (path : String) (settings : Settings) :
    (v.load path settings).2.setup = v.setup := by
  unfold load
  split
  · rfl
  · split
    · rfl
    · split <;> rfl

/-- A load makes the directory of alias stores at most. -/
theorem load_files (v : Service) (path : String) (settings : Settings) :
    (v.load path settings).2.files = v.files ∨
      (v.load path settings).2.files = (v.files.makeDirs v.setup.aliasDir).2 := by
  unfold load
  split
  · exact .inl rfl
  · split
    · exact .inl rfl
    · split
      · rename_i hdirs
        exact .inr (congrArg Prod.snd hdirs).symm
      · rename_i hdirs
        exact .inr (congrArg Prod.snd hdirs).symm

/-- A load that fails may have made directories and does nothing else. -/
theorem load_error {v v' : Service} {path : String} {settings : Settings} {f : Failure}
    (h : v.load path settings = (.error f, v')) : ∃ files, v' = { v with files := files } := by
  unfold load at h
  split at h
  · obtain ⟨-, rfl⟩ := Prod.mk.inj h
    exact ⟨v.files, rfl⟩
  · split at h
    · obtain ⟨-, rfl⟩ := Prod.mk.inj h
      exact ⟨v.files, rfl⟩
    · split at h
      · rename_i files _
        obtain ⟨-, rfl⟩ := Prod.mk.inj h
        exact ⟨files, rfl⟩
      · cases (Prod.mk.inj h).1

/-- A load that succeeds found the artifact, built its engine and made the directory of alias
stores, and registers a new session with that engine. -/
theorem load_ok {v v' : Service} {path : String} {settings : Settings} {s : Session}
    (h : v.load path settings = (.ok s, v')) :
    ∃ bytes engine count files, v.artifactBytes path = .ok bytes ∧
      v.buildEngine path bytes settings = .ok (engine, count) ∧
        v.files.makeDirs v.setup.aliasDir = (.ok (), files) ∧
          s = v.newSession path bytes settings engine count ∧
            v' = { v with files := files }.register s := by
  unfold load at h
  split at h
  · cases (Prod.mk.inj h).1
  · rename_i bytes hbytes
    split at h
    · cases (Prod.mk.inj h).1
    · rename_i engine count hengine
      split at h
      · cases (Prod.mk.inj h).1
      · rename_i files hdirs
        obtain ⟨hs, rfl⟩ := Prod.mk.inj h
        obtain rfl := Except.ok.inj hs
        exact ⟨bytes, engine, count, files, hbytes, hengine, hdirs, rfl, rfl⟩

/-- The engine that is built is that of the artifact's bytes. -/
theorem engineOfBytes_of_buildEngine {v : Service} (hfactory : v.setup.factory = Export.factory)
    {path : String} {bytes : ByteArray} {settings : Settings} {engine : Engine} {count : Nat}
    (h : v.buildEngine path bytes settings = .ok (engine, count)) :
    Export.engineOfBytes bytes = .ok engine := by
  simp only [buildEngine, hfactory, Export.factory] at h
  split at h
  · cases h
  · rename_i engine' hengine
    split at h
    · cases h
    · obtain ⟨rfl, -⟩ := Prod.mk.inj (Except.ok.inj h)
      exact hengine

end Service
end DexQuery
