import DexQuery.Proofs.Service.Found

/-!
# The registry and the stages of sessions agree

Whether a session is open shows in four places that different operations maintain: the registry,
its status, its alias file and its engine. `Consistent` ties them together, and every command keeps
it, in whatever order and with whatever outcome commands come (`Consistent.performAll`).

Ids are drawn from outside; the one thing asked of them is that no two are equal.
-/

namespace DexQuery
namespace Service

/-- What is asked of a service: loading, calling, calling a session that is held, closing one
session or all. The files may be changed from outside at any time. -/
inductive Command where
  | load (path : String) (settings : Settings)
  | dispatch (id method : String) (args : Json)
  | held (place : Nat) (request : Request)
  | close (id : String)
  | closeAll
  | change (files : Files.Tree)

/-- The service after a command. -/
def perform (v : Service) : Command → Service
  | .load path settings => (v.load path settings).2
  | .dispatch id method args => (v.dispatch id method args).2
  | .held place r => (v.runAt place r).2
  | .close id => (v.close id).2
  | .closeAll => v.closeAll
  | .change files => { v with files := files }

/-- The service after commands one after the other. -/
def performAll (v : Service) (cs : List Command) : Service := cs.foldl perform v

/-- Nothing that is asked of a service changes what it works with. -/
theorem setup_perform (v : Service) (c : Command) : (v.perform c).setup = v.setup := by
  cases c with
  | load path settings => exact load_setup v path settings
  | dispatch id method args => exact (keeps_call v id method args).setup
  | held place r => exact (keeps_runAt v place r).setup
  | close id => exact close_setup v id
  | closeAll => exact closeEach_setup v _
  | change files => rfl

theorem setup_performAll (v : Service) (cs : List Command) :
    (v.performAll cs).setup = v.setup := by
  induction cs generalizing v with
  | nil => rfl
  | cons c cs ih => exact (ih (v.perform c)).trans (setup_perform v c)

/-! ## The invariant -/

/-- Ids differ and belong to places, the registry leads from the id of a session to that session,
and it leads to exactly those sessions that are in use; the others have ended. -/
structure Consistent (v : Service) : Prop where
  distinct : Function.Injective v.setup.ids
  ids : ∀ p s, v.session? p = some s → s.id = v.setup.ids p
  entries : v.Named
  stages : ∀ p s, v.session? p = some s →
    (v.place? s.id = some p ∧ s.Live) ∨ (v.place? s.id ≠ some p ∧ s.Dead)
  ascending : Keyed.Ascending v.registered

namespace Consistent

variable {v v' : Service}

theorem start {setup : Setup} (h : Function.Injective setup.ids) (files : Files.Tree)
    (clock : Nat) : (Service.start setup files clock).Consistent where
  distinct := h
  ids p s hs := by simp [session?, Service.start] at hs
  entries id p hp := by simp [place?, Service.start] at hp
  stages p s hs := by simp [session?, Service.start] at hs
  ascending := Keyed.ascending_nil

/-- An id leads to one session only. -/
theorem place_unique (h : v.Consistent) {p q : Nat} {s t : Session}
    (hs : v.session? p = some s) (ht : v.session? q = some t) (hid : s.id = t.id) : p = q := by
  refine h.distinct ?_
  rw [← h.ids p s hs, ← h.ids q t ht, hid]

theorem live_of_place (h : v.Consistent) {id : String} {p : Nat} (hp : v.place? id = some p) :
    ∃ s, v.session? p = some s ∧ s.id = id ∧ s.Live := by
  obtain ⟨s, hs, rfl⟩ := h.entries id p hp
  rcases h.stages p s hs with ⟨-, hl⟩ | ⟨hn, -⟩
  · exact ⟨s, hs, rfl, hl⟩
  · exact absurd hp hn

/-- A session that an id leads to is in use. -/
theorem live_of_found (h : v.Consistent) {id : String} {p : Nat} {s : Session}
    (hf : v.found? id = some (p, s)) : s.Live := by
  obtain ⟨hp, hs⟩ := found?_eq_some_iff.1 hf
  obtain ⟨t, ht, -, hlive⟩ := h.live_of_place hp
  obtain rfl := Option.some.inj (hs.symm.trans ht)
  exact hlive

theorem keeps (h : v.Consistent) (hk : v.Keeps v') : v'.Consistent where
  distinct := hk.setup ▸ h.distinct
  ids p s' hs' := by
    obtain ⟨s, hs, hstage⟩ := hk.session?_of hs'
    rw [hstage.id, hk.setup, h.ids p s hs]
  entries id p hp := by
    rw [hk.place?] at hp
    obtain ⟨s, hs, hid⟩ := h.entries id p hp
    obtain ⟨s', hs', hstage⟩ := hk.sessions p s hs
    exact ⟨s', hs', hstage.id.trans hid⟩
  stages p s' hs' := by
    obtain ⟨s, hs, hstage⟩ := hk.session?_of hs'
    rw [hk.place?, hstage.id]
    rcases h.stages p s hs with ⟨hp, hl⟩ | ⟨hp, hd⟩
    · exact .inl ⟨hp, hstage.live hl⟩
    · exact .inr ⟨hp, hstage.dead hd⟩
  ascending := hk.registered ▸ h.ascending

/-- A session with the next id joins the others without touching them. -/
theorem register (h : v.Consistent) {s : Session} (hid : s.id = v.setup.ids v.loaded.length)
    (hl : { s with status := .active }.Live) : (v.register s).Consistent := by
  have hfresh : ∀ p t, v.session? p = some t → s.id ≠ t.id := by
    intro p t ht he
    have hp : v.loaded.length = p := h.distinct (by rw [← hid, he, h.ids p t ht])
    exact absurd (session?_lt ht) (by omega)
  refine ⟨h.distinct, fun p t ht => ?_, h.entries.register s, fun p t ht => ?_,
    h.ascending.insert ..⟩
  · rcases session?_register ht with ⟨rfl, rfl⟩ | ht
    · exact hid
    · exact h.ids p t ht
  · rcases session?_register ht with ⟨rfl, rfl⟩ | ht
    · exact .inl ⟨place?_register_self v s, hl⟩
    · rw [place?_register_of_ne (hfresh p t ht)]
      exact h.stages p t ht

theorem close (h : v.Consistent) (id : String) : (v.close id).2.Consistent := by
  cases hid : v.place? id with
  | none =>
    rw [close_of_none hid]
    exact h
  | some q =>
    obtain ⟨sq, hsq, hsid, hlive⟩ := h.live_of_place hid
    -- A session afterwards is the closed one, or another one as it was.
    have hcases : ∀ p s', (v.close id).2.session? p = some s' →
        (p = q ∧ s' = sq.close) ∨ (p ≠ q ∧ v.session? p = some s' ∧ id ≠ s'.id) := by
      intro p s' hs'
      by_cases hp : p = q
      · subst hp
        rw [session?_close_self hid hsq] at hs'
        exact .inl ⟨rfl, (Option.some.inj hs').symm⟩
      · rw [session?_close_of_ne (by rw [hid]; simpa using Ne.symm hp)] at hs'
        exact .inr ⟨hp, hs', fun he => hp (h.place_unique hs' hsq (he.symm.trans hsid.symm))⟩
    have hsetup : (v.close id).2.setup = v.setup := by rw [close_of_some hid]
    refine ⟨hsetup ▸ h.distinct, fun p s' hs' => ?_, h.entries.close id, fun p s' hs' => ?_, ?_⟩
    · rw [hsetup]
      rcases hcases p s' hs' with ⟨rfl, rfl⟩ | ⟨-, hs, -⟩
      · exact h.ids p sq hsq
      · exact h.ids p s' hs
    · rcases hcases p s' hs' with ⟨rfl, rfl⟩ | ⟨-, hs, hne⟩
      · refine .inr ⟨?_, hlive.close⟩
        rw [show sq.close.id = id from hsid, place?_close_self]
        simp
      · rw [place?_close_of_ne hne]
        exact h.stages p s' hs
    · rw [close_of_some hid]
      exact h.ascending.erase id

theorem closeEach (h : v.Consistent) (ids : List String) :
    (ids.foldl (fun v id => (v.close id).2) v).Consistent := by
  induction ids generalizing v with
  | nil => exact h
  | cons id ids ih => exact ih (h.close id)

/-- What a load leaves of the state before it, with the new session if there is one. -/
theorem load (h : v.Consistent) (path : String) (settings : Settings) :
    (v.load path settings).2.Consistent := by
  cases hload : v.load path settings with
  | mk result v' =>
    cases result with
    | error f =>
      obtain ⟨files, rfl⟩ := load_error hload
      exact h.keeps (keeps_files_clock v files v.clock)
    | ok s =>
      obtain ⟨bytes, engine, count, files, -, -, -, rfl, rfl⟩ := load_ok hload
      have hk : v.Keeps { v with files := files } := keeps_files_clock v files v.clock
      exact (h.keeps hk).register rfl ⟨rfl, rfl, [], rfl⟩

/-- Every command keeps the invariant. -/
theorem perform (h : v.Consistent) (c : Command) : (v.perform c).Consistent := by
  cases c with
  | load path settings => exact h.load path settings
  | dispatch id method args => exact h.keeps (keeps_call v id method args)
  | held place r => exact h.keeps (keeps_runAt v place r)
  | close id => exact h.close id
  | closeAll => exact h.closeEach _
  | change files => exact h.keeps (keeps_files_clock v files v.clock)

theorem performAll (h : v.Consistent) (cs : List Command) : (v.performAll cs).Consistent := by
  induction cs generalizing v with
  | nil => exact h
  | cons c cs ih => exact ih (h.perform c)

end Consistent
end Service
end DexQuery
