import DexQuery.Proofs.Service.Writes
import DexQuery.Proofs.Session.Fault

/-!
# Calls that fail

A call that fails has changed nothing that calls are about: the registry, the stages of the sessions
and their aliases are as they were, and a session has been accessed at most. What had been found out
before the failure stays in the cache, and it is what the engine has said (`Service.Undone`).

A fault that the engine meets with is reported as a failure of the engine or, by a search, as a
warning, and the session goes on: its next call is run by the same engine. All of this holds of
every service that commands lead to, whatever its engines are (`Service.withstands_performAll`).
-/

namespace DexQuery
namespace Service

open Files (Tree)

/-! ## What a failure leaves -/

/-- `v'` differs from `v` at most by an access to the session with the id, by time, and by what its
engine has said in the cache. -/
structure Undone (v v' : Service) (id : String) : Prop where
  setup : v'.setup = v.setup
  lives : v.SameLives v'
  aliases : v.SameAliases v'
  /-- Of the sessions, the time of the last access to one has changed at most. -/
  accessed : v'.loaded = v.loaded ∨
    ∃ p s, v.found? id = some (p, s) ∧ v'.loaded = v.loaded.set p (s.touch v.clock)
  /-- Of the files, there are new entries in the cache at most. -/
  cached : v'.files = v.files ∨ ∃ p s e, v.found? id = some (p, s) ∧ s.engine = some e ∧
    s.cache.Gains s.cacheKey e v.files v'.files

variable {v : Service} {id method : String} {args : Json}

theorem Undone.refl (v : Service) (id : String) : v.Undone v id :=
  ⟨rfl, ⟨rfl, rfl⟩, rfl, .inl rfl, .inl rfl⟩

/-- A call that fails leaves nothing behind but what is in the cache. -/
theorem undone_of_failed (h : (v.dispatch id method args).1.ok = false) :
    v.Undone (v.dispatch id method args).2 id := by
  have hstate : (v.dispatch id method args).2 = (v.call id method args).2 := rfl
  obtain ⟨f, hf⟩ := ok_dispatch_eq_false_iff.1 h
  rw [hstate]
  cases hr : Request.ofCall method args with
  | error f =>
    rw [call_of_unread hr]
    exact .refl v id
  | ok r =>
    cases hfound : v.found? id with
    | none =>
      rw [call_of_not_found hr hfound]
      exact .refl v id
    | some found =>
      obtain ⟨p, s⟩ := found
      obtain ⟨-, hs⟩ := found?_eq_some_iff.1 hfound
      rw [call_of_found hr hfound] at hf ⊢
      obtain ⟨aliases, hsession, -, herror, -⟩ := (s.touch v.clock).run_effect v.files r
      obtain rfl := herror f hf
      refine ⟨rfl, ⟨rfl, ?_⟩, ?_, .inr ⟨p, s, hfound, ?_⟩, ?_⟩
      · exact map_setSession (fun s => (s.id, s.status)) hs (by rw [hsession]; rfl)
      · exact map_setSession Session.aliases hs (by rw [hsession]; rfl)
      · rw [hsession]
        rfl
      · rcases (s.touch v.clock).stores_run v.files r with hsame | ⟨e, he, hstores⟩
        · exact .inl hsame
        · exact .inr ⟨p, s, e, hfound, he, hstores.gains⟩

/-! ## What becomes of a fault -/

/-- A fault that the call meets with is reported: the call fails as a failure of the engine, or it
is a search, which warns of the error and goes on. -/
def Reports (v : Service) (id method : String) (args : Json) : Prop :=
  ∀ r p s e q F, Request.ofCall method args = .ok r → v.found? id = some (p, s) →
    s.engine = some e → e.reply q = .error F → (s.touch v.clock).HangsOn e v.files r q →
      (v.dispatch id method args).1.kind = some .engineFailure ∨
        (r.operation = .searchStrings ∧ (v.dispatch id method args).1.ok = true ∧
          WarnedOf q F (v.dispatch id method args).1.warnings)

theorem reports (v : Service) (id method : String) (args : Json) : v.Reports id method args := by
  intro r p s e q F hr hfound he hF hhangs
  have hshows := Session.runOn_of_fault hF hhangs
  have hanswer : (v.call id method args).1 =
      ((s.touch v.clock).runOn e v.files r).answer.mapError Abort.failure := by
    rw [call_of_found hr hfound, Session.run_of_engine (s := s.touch v.clock) he]
  simp only [dispatch, hanswer]
  generalize ((s.touch v.clock).runOn e v.files r).answer = answer at hshows ⊢
  have hcode : ∀ fault : Fault, (Abort.ofFault fault).failure.code = .engineFailure := by
    intro fault
    cases fault <;> rfl
  cases hshows with
  | broken => exact .inl (congrArg some (hcode F))
  | brokenElsewhere fault _ => exact .inl (congrArg some (hcode fault))
  | warned hsearch hwarned => exact .inr ⟨hsearch, rfl, hwarned⟩

/-- After the call, whatever becomes of it, the session that the id leads to still runs what is
asked of it, by its engine. -/
def GoesOn (v : Service) (id method : String) (args : Json) : Prop :=
  ∀ p s, v.found? id = some (p, s) → ∃ e s', s.engine = some e ∧ s'.engine = some e ∧
    (v.dispatch id method args).2.found? id = some (p, s') ∧
    ∀ method' args' r, Request.ofCall method' args' = .ok r →
      ((v.dispatch id method args).2.call id method' args').1 =
        ((s'.touch (v.dispatch id method args).2.clock).runOn e
          (v.dispatch id method args).2.files r).answer.mapError Abort.failure ∧
      ((v.dispatch id method args).2.call id method' args').1 ≠ .error .sessionClosed

/-- A call leads from the session of an id to that session again, with the engine it had. -/
theorem found?_dispatch {p : Nat} {s : Session} (hfound : v.found? id = some (p, s)) :
    ∃ s', (v.dispatch id method args).2.found? id = some (p, s') ∧ s'.engine = s.engine := by
  have hkeeps : v.Keeps (v.dispatch id method args).2 := keeps_call v id method args
  obtain ⟨hp, hs⟩ := found?_eq_some_iff.1 hfound
  obtain ⟨s', hs', hstage⟩ := hkeeps.sessions p s hs
  exact ⟨s', found?_eq_some_iff.2 ⟨(hkeeps.place? id).trans hp, hs'⟩, hstage.engine⟩

/-- A live session that an id leads to runs what is asked of it. -/
theorem call_of_live {p : Nat} {s : Session} {e : Engine} {r : Request}
    (hfound : v.found? id = some (p, s)) (hlive : s.Live) (he : s.engine = some e)
    (hr : Request.ofCall method args = .ok r) :
    (v.call id method args).1 =
        ((s.touch v.clock).runOn e v.files r).answer.mapError Abort.failure ∧
      (v.call id method args).1 ≠ .error .sessionClosed := by
  have hrun : (v.call id method args).1 =
      ((s.touch v.clock).runOn e v.files r).answer.mapError Abort.failure := by
    rw [call_of_found hr hfound, Session.run_of_engine (s := s.touch v.clock) he]
  refine ⟨hrun, ?_⟩
  rw [hrun]
  intro hclosed
  obtain ⟨rows, hrows⟩ := hlive.rows
  obtain ⟨a, ha, hfailure⟩ := Session.mapError_eq_error_iff.1 hclosed
  exact (Session.runOn_fails (s := s.touch v.clock) e v.files hrows r a ha).ne_closed hfailure

theorem Consistent.goesOn (h : v.Consistent) (id method : String) (args : Json) :
    v.GoesOn id method args := by
  intro p s hfound
  obtain ⟨s', hfound', hengine⟩ := @found?_dispatch v id method args p s hfound
  have hafter : (v.dispatch id method args).2.Consistent := h.keeps (keeps_call v id method args)
  have hlive := hafter.live_of_found hfound'
  obtain ⟨e, he⟩ := Option.isSome_iff_exists.1 hlive.engine
  exact ⟨e, s', hengine.symm.trans he, he, hfound', fun method' args' r hr =>
    call_of_live hfound' hlive he hr⟩

/-! ## All of it together -/

/-- The service withstands the call: a failure undoes what the call was about, a fault is reported,
and the session goes on. -/
structure Withstands (v : Service) (id method : String) (args : Json) : Prop where
  undone : (v.dispatch id method args).1.ok = false → v.Undone (v.dispatch id method args).2 id
  reports : v.Reports id method args
  goesOn : v.GoesOn id method args

/-- **Failed calls are undone and do no harm.** Whatever the engines of a service are, at whichever
of their replies they fail and in whichever way, and whatever commands have gone before. -/
theorem withstands_performAll {setup : Setup} (hids : Function.Injective setup.ids) (files : Tree)
    (clock : Nat) (cs : List Command) (id method : String) (args : Json) :
    ((start setup files clock).performAll cs).Withstands id method args where
  undone := undone_of_failed
  reports := reports _ id method args
  goesOn := ((Consistent.start hids files clock).performAll cs).goesOn id method args

/-! ### A sample -/

/-- The setup of the samples, with engines that take every method for known and panic when they are
asked for a disassembly. -/
def panickingSetup : Setup :=
  { sampleSetup with
    factory.create := fun path bytes settings =>
      (Export.factory.create path bytes settings).map fun e =>
        { e with
          memberSpan := fun _ => .ok (some ⟨none, none⟩)
          unitDisassembly := fun _ => .error (.panic "no disassembler") } }

/-- A service with such an engine that has loaded one export. -/
def panicking : Service := (start panickingSetup sampleFiles 0).performAll [.load "a" .default]

/-- The engine panics after the source of the type has been found out: the call fails, the source
stays in the cache, and the next call is answered. -/
theorem withstands_sample :
    let args : Json := .object [("method_id", .string "Lp/A;->f()V")]
    Function.Injective panickingSetup.ids ∧
      panicking.Withstands "" "decompile_method" args ∧
      (panicking.dispatch "" "decompile_method" args).1.kind = some .engineFailure ∧
      (((panicking.dispatch "" "decompile_method" args).2.found? "").bind fun found =>
        found.2.cache.get (panicking.dispatch "" "decompile_method" args).2.files
          found.2.cacheKey .source "p/A") = some "class A" ∧
      ((panicking.dispatch "" "decompile_method" args).2.dispatch "" "list_types"
        (.object [])).1.ok = true := by
  intro args
  have hids : Function.Injective panickingSetup.ids := sampleSetup_ids
  exact ⟨hids, withstands_performAll hids sampleFiles 0 _ "" "decompile_method" args,
    by decide +kernel⟩

end Service
end DexQuery
