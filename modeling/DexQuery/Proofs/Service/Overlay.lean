import DexQuery.Proofs.Service.Lifecycle
import DexQuery.Proofs.Service.Found
import DexQuery.Proofs.Session.Overlay

/-!
# Services that differ in their aliases

Aliases lie over the answers and are not part of what is asked about. Two services that differ only
in what the alias stores of their sessions hold (`Service.Relabelled`) answer every call alike but
for the aliases of listed entries, and every entry shows the alias that the session of the service
has for it (`Service.dispatch_relabelled`). They also go on differing only in their aliases
(`Service.Relabelled.dispatch`).
-/

namespace DexQuery

/-- An envelope without the aliases of the entries of its lists. -/
def Envelope.unlabelled (e : Envelope) : Envelope := { e with data := e.data.map Json.unlabelled }

theorem Envelope.unlabelled_ofResult {query : String} {args : Json} {x y : Except Failure Output}
    (h : x.map Output.unlabelled = y.map Output.unlabelled) :
    (ofResult query args x).unlabelled = (ofResult query args y).unlabelled := by
  have hout : ∀ z : Except Failure Output, (ofResult query args z).unlabelled =
      ofResult query args (z.map Output.unlabelled) := by
    intro z
    cases z <;> rfl
  rw [hout, hout, h]

namespace Service

/-- The services differ at most in what the alias stores of their sessions hold. -/
structure Relabelled (v w : Service) : Prop where
  setup : v.setup = w.setup
  registered : v.registered = w.registered
  files : v.files = w.files
  clock : v.clock = w.clock
  length : v.loaded.length = w.loaded.length
  sessions : ∀ p s, v.session? p = some s → ∃ t, w.session? p = some t ∧ s.Relabelled t

/-- The answer in an envelope, if there is one, has entries under `key` that show the aliases of the
session with the id. -/
def ShowsAliases (v : Service) (id key : String) (e : Envelope) : Prop :=
  ∀ data, e.data = some data → ∃ p s labels items, v.found? id = some (p, s) ∧
    s.aliases.rows = .ok labels ∧ data.member? key = some (.array items) ∧
    ∀ item ∈ items, item.Shows labels

variable {v w : Service} {id method key : String} {args : Json} {r : Request}

namespace Relabelled

/-- The same id leads to sessions that differ in their aliases, or to none in both services. -/
theorem found (h : v.Relabelled w) (id : String) :
    (v.found? id = none ∧ w.found? id = none) ∨ ∃ p s t, v.found? id = some (p, s) ∧
      w.found? id = some (p, t) ∧ s.Relabelled t := by
  have hplace : w.place? id = v.place? id := congrArg (Keyed.get? id) h.registered.symm
  cases hp : v.place? id with
  | none =>
    refine .inl ⟨?_, ?_⟩
    · simp only [found?, hp, Option.bind_none]
    · simp only [found?, hplace, hp, Option.bind_none]
  | some p =>
    cases hs : v.session? p with
    | none =>
      have hlength : w.loaded.length ≤ p := h.length ▸ List.getElem?_eq_none_iff.1 hs
      have ht : w.session? p = none := List.getElem?_eq_none_iff.2 hlength
      refine .inl ⟨?_, ?_⟩
      · simp only [found?, hp, hs, Option.bind_some, Option.map_none]
      · simp only [found?, hplace, hp, ht, Option.bind_some, Option.map_none]
    | some s =>
      obtain ⟨t, ht, hst⟩ := h.sessions p s hs
      exact .inr ⟨p, s, t, found?_eq_some_iff.2 ⟨hp, hs⟩,
        found?_eq_some_iff.2 ⟨hplace.trans hp, ht⟩, hst⟩

/-- A call is refused in the same way by both services, which are left as they were, or is a request
to sessions that differ in their aliases. -/
theorem call_cases (h : v.Relabelled w) (id method : String) (args : Json) :
    (∃ f, v.call id method args = (.error f, v) ∧ w.call id method args = (.error f, w)) ∨
      ∃ r p s t, Request.ofCall method args = .ok r ∧ v.found? id = some (p, s) ∧
        w.found? id = some (p, t) ∧ s.Relabelled t := by
  cases hr : Request.ofCall method args with
  | error f => exact .inl ⟨f, call_of_unread hr, call_of_unread hr⟩
  | ok r =>
    rcases h.found id with ⟨hv, hw⟩ | ⟨p, s, t, hv, hw, hst⟩
    · exact .inl ⟨.sessionNotFound id, call_of_not_found hr hv, call_of_not_found hr hw⟩
    · exact .inr ⟨r, p, s, t, rfl, hv, hw, hst⟩

theorem setSession (h : v.Relabelled w) {p : Nat} {s t s' t' : Session}
    (hs : v.session? p = some s) (ht : w.session? p = some t) (h' : s'.Relabelled t')
    (files : Files.Tree) (clock : Nat) :
    { v.setSession p s' with files := files, clock := clock }.Relabelled
      { w.setSession p t' with files := files, clock := clock } where
  setup := h.setup
  registered := h.registered
  files := rfl
  clock := rfl
  length := by simp only [Service.setSession, List.length_set, h.length]
  sessions q u hu := by
    by_cases hpq : p = q
    · subst hpq
      have hself := session?_setSession_self (session?_lt hs) s'
      obtain rfl := Option.some.inj (hself.symm.trans hu)
      exact ⟨t', session?_setSession_self (session?_lt ht) t', h'⟩
    · obtain ⟨u', hu', hrel⟩ := h.sessions q u ((session?_setSession_of_ne hpq s').symm.trans hu)
      exact ⟨u', (session?_setSession_of_ne hpq t').trans hu', hrel⟩

/-- **What calls leave differs only in the aliases.** -/
theorem dispatch (h : v.Relabelled w) (id method : String) (args : Json) :
    (v.dispatch id method args).2.Relabelled (w.dispatch id method args).2 := by
  change (v.call id method args).2.Relabelled (w.call id method args).2
  rcases h.call_cases id method args with ⟨f, hv, hw⟩ | ⟨r, p, s, t, hr, hv, hw, hst⟩
  · rw [hv, hw]
    exact h
  · rw [call_of_found hr hv, call_of_found hr hw, ← h.files, ← h.clock]
    obtain ⟨hafter, hfiles⟩ := (hst.touch v.clock).run v.files r
    rw [← hfiles]
    exact h.setSession (found?_eq_some_iff.1 hv).2 (found?_eq_some_iff.1 hw).2 hafter _ _

end Relabelled

/-- What a call is answered, if it is read, on the session that it finds. -/
theorem call_fst_of_found {p : Nat} {s : Session} (hr : Request.ofCall method args = .ok r)
    (h : v.found? id = some (p, s)) :
    (v.call id method args).1 = ((s.touch v.clock).run v.files r).1 := by
  rw [call_of_found hr h]

/-- What is answered is the answer to a request on the session that the call finds. -/
theorem request_of_call_eq_ok {out : Output} (h : (v.call id method args).1 = .ok out) :
    ∃ r p s, Request.ofCall method args = .ok r ∧ v.found? id = some (p, s) ∧
      ((s.touch v.clock).run v.files r).1 = .ok out := by
  cases hr : Request.ofCall method args with
  | error f =>
    rw [call_of_unread hr] at h
    cases h
  | ok r =>
    cases hf : v.found? id with
    | none =>
      rw [call_of_not_found hr hf] at h
      cases h
    | some found =>
      obtain ⟨p, s⟩ := found
      exact ⟨r, p, s, rfl, rfl, (call_fst_of_found hr hf).symm.trans h⟩

namespace Relabelled

/-- A call that shows no aliases is answered alike. -/
theorem call_eq (h : v.Relabelled w)
    (hshows : ∀ op : Operation, op.showsAliases = true → method ≠ op.name) :
    (v.call id method args).1 = (w.call id method args).1 := by
  rcases h.call_cases id method args with ⟨f, hv, hw⟩ | ⟨r, p, s, t, hr, hv, hw, hst⟩
  · rw [hv, hw]
  · have hnot : r.operation.showsAliases = false := by
      refine Bool.eq_false_iff.2 fun hop => hshows _ hop ?_
      exact (Request.name_of_ofCall hr).symm
    rw [call_fst_of_found hr hv, call_fst_of_found hr hw, ← h.files, ← h.clock]
    exact (hst.touch v.clock).run_eq v.files hnot

/-- A call that lists entries is answered alike but for their aliases. -/
theorem call_unlabelled (h : v.Relabelled w) {op : Operation} (hop : op.entriesKey? = some key) :
    (v.call id op.name args).1.map Output.unlabelled =
      (w.call id op.name args).1.map Output.unlabelled := by
  rcases h.call_cases id op.name args with ⟨f, hv, hw⟩ | ⟨r, p, s, t, hr, hv, hw, hst⟩
  · rw [hv, hw]
  · rw [call_fst_of_found hr hv, call_fst_of_found hr hw, ← h.files, ← h.clock]
    rw [← Request.operation_of_ofCall hr] at hop
    exact (hst.touch v.clock).run_unlabelled v.files hop

end Relabelled

/-- The entries in the answer of a service show the aliases of its own session. -/
theorem showsAliases_dispatch (v : Service) (id : String) (args : Json) {op : Operation}
    (hop : op.entriesKey? = some key) :
    v.ShowsAliases id key (v.dispatch id op.name args).1 := by
  intro data hdata
  cases hcall : (v.call id op.name args).1 with
  | error f =>
    simp only [dispatch, hcall, Envelope.ofResult, Envelope.failure] at hdata
    cases hdata
  | ok out =>
    simp only [dispatch, hcall, Envelope.ofResult, Envelope.success] at hdata
    obtain rfl := Option.some.inj hdata
    obtain ⟨r, p, s, hr, hf, hrun⟩ := request_of_call_eq_ok hcall
    rw [← Request.operation_of_ofCall hr] at hop
    obtain ⟨labels, items, hrows, hitems, hshow⟩ := Session.run_shows v.files hop hrun
    exact ⟨p, s, labels, items, hf, hrows, hitems, hshow⟩

/-- **Aliases are only displayed.** Of two services that differ in their aliases, a call that shows
none gets the same answer. One that lists entries gets the same answer but for their aliases, and
these are in each service the aliases of the session there. -/
theorem dispatch_relabelled (h : v.Relabelled w) (id method : String) (args : Json) :
    ((∀ op : Operation, op.showsAliases = true → method ≠ op.name) →
        (v.dispatch id method args).1 = (w.dispatch id method args).1) ∧
      ∀ (op : Operation) (key : String), op.entriesKey? = some key → method = op.name →
        (v.dispatch id method args).1.unlabelled = (w.dispatch id method args).1.unlabelled ∧
          v.ShowsAliases id key (v.dispatch id method args).1 ∧
          w.ShowsAliases id key (w.dispatch id method args).1 := by
  constructor
  · intro hshows
    exact congrArg (Envelope.ofResult method args) (h.call_eq hshows)
  · rintro op key hop rfl
    refine ⟨Envelope.unlabelled_ofResult (h.call_unlabelled hop), ?_, ?_⟩
    · exact v.showsAliases_dispatch id args hop
    · exact w.showsAliases_dispatch id args hop

/-! ### A sample -/

/-- The sample with one session. -/
def sampleLoaded : Service := (sample.load "a" .default).2

/-- The store of a session in which a type has an alias. -/
def sampleAliases : AliasStore := ⟨some [("Lp/A;", ⟨"class", "Main"⟩)], true⟩

/-- The sample with one session, in which a type has an alias. -/
def sampleLabelled : Service :=
  { sampleLoaded with loaded := sampleLoaded.loaded.map (·.relabel sampleAliases) }

theorem sampleLoaded_relabelled : sampleLoaded.Relabelled sampleLabelled where
  setup := rfl
  registered := rfl
  files := rfl
  clock := rfl
  length := by simp only [sampleLabelled, List.length_map]
  sessions p s hs := by
    have hopen : (sampleLoaded.loaded.all fun s => s.aliases.connected && s.aliases.hasFile) =
        true := by decide +kernel
    have hs' := List.all_eq_true.1 hopen s (List.mem_of_getElem? hs)
    refine ⟨s.relabel sampleAliases, ?_, sampleAliases, Bool.and_eq_true_iff.1 hs', rfl⟩
    simp only [session?, sampleLabelled, List.getElem?_map] at hs ⊢
    rw [hs, Option.map_some]

/-- The alias of a type in one of two services is seen in its list of types, and nowhere else. -/
theorem dispatch_relabelled_sample :
    sampleLoaded.Relabelled sampleLabelled ∧
      (sampleLoaded.dispatch "" "list_packages" (.object [])).1 =
        (sampleLabelled.dispatch "" "list_packages" (.object [])).1 ∧
      (sampleLoaded.dispatch "" "list_types" (.object [])).1.unlabelled =
        (sampleLabelled.dispatch "" "list_types" (.object [])).1.unlabelled ∧
      sampleLabelled.ShowsAliases "" "types"
        (sampleLabelled.dispatch "" "list_types" (.object [])).1 ∧
      (sampleLabelled.dispatch "" "list_types" (.object [])).1.ok = true := by
  have hrel := sampleLoaded_relabelled
  have hlist := (dispatch_relabelled hrel "" "list_types" (.object [])).2 .listTypes "types" rfl rfl
  have hpackages : ∀ op : Operation, op.showsAliases = true → "list_packages" ≠ op.name := by
    intro op
    cases op <;> decide
  refine ⟨hrel, ?_, hlist.1, hlist.2.2, by decide +kernel⟩
  exact (dispatch_relabelled hrel "" "list_packages" (.object [])).1 hpackages

end Service
end DexQuery
