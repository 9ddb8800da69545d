import DexQuery.Proofs.Session.Stores
import DexQuery.Proofs.Service.Registry

/-!
# The session that an id leads to

A call looks for the session with an id and then does something to that session alone, or finds none
and does nothing (`call_of_found`, `call_of_not_found`). The registry of a service is `Named` if it
leads from an id to a session that has it, and then what is done to one session is not seen under
the ids of the others.
-/

namespace DexQuery
namespace Service

/-! ## Finding a session -/

/-- The open session with an id, and its place. -/
def found? (v : Service) (id : String) : Option (Nat × Session) :=
  (v.place? id).bind fun place => (v.session? place).map fun s => (place, s)

variable {v : Service} {id method : String} {args : Json} {place : Nat} {s : Session}
  {r : Request} {f : Failure}

theorem found?_eq_some_iff :
    v.found? id = some (place, s) ↔ v.place? id = some place ∧ v.session? place = some s := by
  simp only [found?, Option.bind_eq_some_iff, Option.map_eq_some_iff, Prod.mk.injEq]
  constructor
  · rintro ⟨p, hp, t, ht, rfl, rfl⟩
    exact ⟨hp, ht⟩
  · rintro ⟨hp, hs⟩
    exact ⟨place, hp, s, hs, rfl, rfl⟩

/-- An id for which nothing changes is found as before. -/
theorem found?_congr {v v' : Service} {id : String} (hplace : v'.place? id = v.place? id)
    (hsession : ∀ p, v.place? id = some p → v'.session? p = v.session? p) :
    v'.found? id = v.found? id := by
  unfold found?
  rw [hplace]
  cases hp : v.place? id with
  | none => rfl
  | some p => simp only [Option.bind_some, hsession p hp]

theorem found?_register_self (v : Service) (s : Session) :
    (v.register s).found? s.id = some (v.loaded.length, { s with status := .active }) :=
  found?_eq_some_iff.2 ⟨place?_register_self v s, session?_register_self v s⟩

theorem found?_setSession_self {v : Service} {id : String} {p : Nat} {s : Session}
    (h : v.found? id = some (p, s)) (s' : Session) :
    (v.setSession p s').found? id = some (p, s') := by
  obtain ⟨hp, hs⟩ := found?_eq_some_iff.1 h
  exact found?_eq_some_iff.2 ⟨hp, session?_setSession_self (session?_lt hs) s'⟩

/-! ## Registries that lead to the right sessions -/

/-- The registry leads to sessions with the ids it has them under. -/
def Named (v : Service) : Prop :=
  ∀ id p, v.place? id = some p → ∃ s, v.session? p = some s ∧ s.id = id

namespace Named

variable {v : Service} {p : Nat} {s s' : Session} {id b : String}

theorem start (setup : Setup) (files : Files.Tree) (clock : Nat) :
    (Service.start setup files clock).Named :=
  fun id p hp => by simp [place?, Service.start] at hp

theorem found (h : v.Named) (hp : v.place? id = some p) :
    ∃ s, v.found? id = some (p, s) ∧ v.session? p = some s ∧ s.id = id := by
  obtain ⟨s, hs, hid⟩ := h id p hp
  exact ⟨s, found?_eq_some_iff.2 ⟨hp, hs⟩, hs, hid⟩

theorem id_of_found (h : v.Named) (hf : v.found? id = some (p, s)) : s.id = id := by
  obtain ⟨hp, hs⟩ := found?_eq_some_iff.1 hf
  obtain ⟨t, ht, rfl⟩ := h id p hp
  rw [Option.some.inj (hs.symm.trans ht)]

theorem setSession (h : v.Named) (hs : v.session? p = some s) (hid : s'.id = s.id) :
    (v.setSession p s').Named := by
  intro id q hq
  obtain ⟨t, ht, htid⟩ := h id q hq
  by_cases hpq : p = q
  · subst hpq
    obtain rfl := Option.some.inj (hs.symm.trans ht)
    exact ⟨s', session?_setSession_self (session?_lt hs) s', hid.trans htid⟩
  · exact ⟨t, (session?_setSession_of_ne hpq s').trans ht, htid⟩

theorem found?_setSession (h : v.Named) (hs : v.session? p = some s) (hne : s.id ≠ b) :
    (v.setSession p s').found? b = v.found? b := by
  refine found?_congr rfl fun q hq => session?_setSession_of_ne ?_ s'
  rintro rfl
  obtain ⟨t, ht, hid⟩ := h b p hq
  obtain rfl := Option.some.inj (hs.symm.trans ht)
  exact hne hid

theorem register (h : v.Named) (s : Session) : (v.register s).Named := by
  intro id q hq
  by_cases hid : s.id = id
  · subst hid
    obtain rfl := Option.some.inj ((place?_register_self v s).symm.trans hq)
    exact ⟨_, session?_register_self v s, rfl⟩
  · rw [place?_register_of_ne hid] at hq
    obtain ⟨t, ht, htid⟩ := h id q hq
    exact ⟨t, (session?_register_of_lt (session?_lt ht) s).trans ht, htid⟩

theorem found?_register (h : v.Named) (hne : s.id ≠ b) :
    (v.register s).found? b = v.found? b := by
  refine found?_congr (place?_register_of_ne hne) fun q hq => ?_
  obtain ⟨t, ht, -⟩ := h b q hq
  exact session?_register_of_lt (session?_lt ht) s

theorem close (h : v.Named) (id : String) : (v.close id).2.Named := by
  intro id' q hq
  have hne : id ≠ id' := by
    rintro rfl
    rw [place?_close_self] at hq
    cases hq
  rw [place?_close_of_ne hne] at hq
  obtain ⟨t, ht, htid⟩ := h id' q hq
  refine ⟨t, (session?_close_of_ne fun hp => ?_).trans ht, htid⟩
  obtain ⟨t', ht', htid'⟩ := h id q hp
  obtain rfl := Option.some.inj (ht.symm.trans ht')
  exact hne (htid'.symm.trans htid)

/-- Closing says whether the id led to a session. -/
theorem close_fst (h : v.Named) (id : String) : (v.close id).1 = (v.found? id).isSome := by
  cases hid : v.place? id with
  | none =>
    rw [close_of_none hid, found?, hid]
    rfl
  | some p =>
    obtain ⟨s, hf, -⟩ := h.found hid
    rw [close_of_some hid, hf]
    rfl

theorem found?_close (h : v.Named) (hne : id ≠ b) : (v.close id).2.found? b = v.found? b := by
  refine found?_congr (place?_close_of_ne hne) fun q hq => session?_close_of_ne fun hp => ?_
  obtain ⟨t, ht, htid⟩ := h b q hq
  obtain ⟨t', ht', htid'⟩ := h id q hp
  obtain rfl := Option.some.inj (ht.symm.trans ht')
  exact hne (htid'.symm.trans htid)

end Named

/-! ## Calls -/

theorem access_of_found (h : v.found? id = some (place, s)) :
    v.access id = some (place, s.touch v.clock,
      { v.setSession place (s.touch v.clock) with clock := v.clock + 1 }) := by
  obtain ⟨hp, hs⟩ := found?_eq_some_iff.1 h
  simp only [access, hp, hs]

theorem access_of_not_found (h : v.found? id = none) : v.access id = none := by
  unfold access
  cases hp : v.place? id with
  | none => rfl
  | some p =>
    cases hs : v.session? p with
    | none => simp only [hs]
    | some s =>
      rw [found?_eq_some_iff.2 ⟨hp, hs⟩] at h
      cases h

theorem call_of_unread (hr : Request.ofCall method args = .error f) :
    v.call id method args = (.error f, v) := by
  simp only [call, hr]

theorem call_of_not_found (hr : Request.ofCall method args = .ok r) (h : v.found? id = none) :
    v.call id method args = (.error (.sessionNotFound id), v) := by
  simp only [call, hr, access_of_not_found h]

/-- A call runs on the session it finds, which it touches first. -/
theorem call_of_found (hr : Request.ofCall method args = .ok r)
    (h : v.found? id = some (place, s)) :
    v.call id method args = (((s.touch v.clock).run v.files r).1,
      { v.setSession place ((s.touch v.clock).run v.files r).2.1 with
        files := ((s.touch v.clock).run v.files r).2.2, clock := v.clock + 1 }) := by
  obtain ⟨-, hs⟩ := found?_eq_some_iff.1 h
  have hs' : ({ v.setSession place (s.touch v.clock) with clock := v.clock + 1 } :
      Service).session? place = some (s.touch v.clock) :=
    session?_setSession_self (session?_lt hs) _
  simp only [call, hr, access_of_found h, runAt_eq hs']
  simp only [setSession, List.set_set]

/-- A call stores nothing but texts of the engine of a session. -/
theorem call_files (v : Service) (id method : String) (args : Json) :
    (v.call id method args).2.files = v.files ∨ ∃ p s e, v.session? p = some s ∧
      s.engine = some e ∧ s.Stores e v.files (v.call id method args).2.files := by
  cases hr : Request.ofCall method args with
  | error f =>
    rw [call_of_unread hr]
    exact .inl rfl
  | ok r =>
    cases hf : v.found? id with
    | none =>
      rw [call_of_not_found hr hf]
      exact .inl rfl
    | some found =>
      obtain ⟨p, s⟩ := found
      rw [call_of_found hr hf]
      rcases (s.touch v.clock).stores_run v.files r with hsame | ⟨e, he, hstores⟩
      · exact .inl hsame
      · exact .inr ⟨p, s, e, (found?_eq_some_iff.1 hf).2, he, hstores⟩

end Service
end DexQuery
