import DexQuery.Proofs.Operation.Reading
import DexQuery.Proofs.Session.Reordering

/-!
# What a session says by itself

Without a cache, what a session answers to calls hangs on its engine, its aliases and its
provenance alone. Two sessions with the same aliases and provenance, whose engines no request tells
apart (`Session.Twin`), so give the same answers to the same calls (`Session.Twin.recital`), but for
what an envelope says of the session itself (`Envelope.impersonal`): the id, and the whole of the
information about it.
-/

namespace DexQuery

/-- An envelope without its warnings and without what it says of the session itself. -/
def Envelope.impersonal (e : Envelope) : Envelope :=
  { e with
    data := if e.query = Operation.sessionInfo.name then none else e.data.map Json.anonymous
    warnings := [] }

theorem Envelope.impersonal_ofResult {x y : Except Failure Output}
    (h : x.map Output.anonymous = y.map Output.anonymous) (query : String) (args : Json) :
    (ofResult query args x).impersonal = (ofResult query args y).impersonal := by
  rcases cases_of_map_eq h with ⟨f, rfl, rfl⟩ | ⟨out, out', rfl, rfl, hout⟩
  · rfl
  · obtain ⟨hdata, -, htruncated⟩ := Output.mk.inj hout
    simp only [ofResult, success, impersonal, Option.map_some, hdata, htruncated]
    rfl

namespace Session

/-! ## Calls on a session -/

/-- What a session answers to a call by its engine alone, and the session after it. -/
def reply (s : Session) (method : String) (args : Json) : Envelope × Session :=
  match Request.ofCall method args with
  | .error f => (.failure method args f, s)
  | .ok r =>
    let (answer, s') := s.runUncached r
    (.ofResult method args answer, s')

/-- What a session answers to calls, one after the other. -/
def recital (s : Session) : List (String × Json) → List Envelope
  | [] => []
  | c :: cs => (s.reply c.1 c.2).1 :: (s.reply c.1 c.2).2.recital cs

/-! ## Sessions that answer alike -/

/-- The sessions are counterparts, and their engines are not told apart. -/
structure Twin (s t : Session) : Prop extends s.Counterpart t where
  engines : ∃ e e', s.engine = some e ∧ t.engine = some e' ∧ e.Interchangeable e'

namespace Twin

variable {s t : Session}

theorem refl {e : Engine} (he : s.engine = some e) : s.Twin s :=
  ⟨⟨rfl, rfl⟩, e, e, he, he, fun _ _ => rfl⟩

/-- An access is not seen. -/
theorem touch (h : s.Twin t) (now : Nat) : s.Twin (t.touch now) :=
  ⟨⟨h.aliases, h.provenance⟩, h.engines⟩

/-- Twins are twins after every request, and answer it alike unless it is about the session. -/
theorem runUncached (h : s.Twin t) (r : Request) :
    (s.runUncached r).2.Twin (t.runUncached r).2 ∧
      ((r = .sessionInfo ∧ (s.runUncached r).1 = .ok (.plain s.info) ∧
          (t.runUncached r).1 = .ok (.plain t.info)) ∨
        (t.runUncached r).1.map Output.anonymous = (s.runUncached r).1.map Output.anonymous) := by
  obtain ⟨e, e', he, he', hsame⟩ := h.engines
  rw [runUncached_of_engine he, runUncached_of_engine he', hsame]
  refine ⟨⟨⟨aliases_runOnUncached h.toCounterpart e r, h.provenance⟩, e, e', he, he', hsame⟩, ?_⟩
  by_cases hr : r = .sessionInfo
  · subst hr
    exact .inl ⟨rfl, rfl, rfl⟩
  · have hanswer := anonymous_runOnUncached h.toCounterpart e hr
    refine .inr ?_
    rcases cases_of_map_eq hanswer with ⟨a, ht, hs⟩ | ⟨out, out', ht, hs, hout⟩
    · rw [ht, hs]
    · rw [ht, hs]
      exact congrArg Except.ok hout

theorem reply (h : s.Twin t) (method : String) (args : Json) :
    (s.reply method args).2.Twin (t.reply method args).2 ∧
      (t.reply method args).1.impersonal = (s.reply method args).1.impersonal := by
  simp only [Session.reply]
  cases hr : Request.ofCall method args with
  | error f => exact ⟨h, rfl⟩
  | ok r =>
    obtain ⟨hafter, hanswer⟩ := h.runUncached r
    refine ⟨hafter, ?_⟩
    rcases hanswer with ⟨rfl, hs, ht⟩ | hsame
    · obtain rfl : Operation.sessionInfo.name = method := Request.name_of_ofCall hr
      simp only [hs, ht, Envelope.ofResult, Envelope.success, Envelope.impersonal, if_true,
        Output.plain]
    · exact Envelope.impersonal_ofResult hsame method args

/-- **Twins give the same recital.** -/
theorem recital (h : s.Twin t) (cs : List (String × Json)) :
    (t.recital cs).map Envelope.impersonal = (s.recital cs).map Envelope.impersonal := by
  induction cs generalizing s t with
  | nil => rfl
  | cons c cs ih =>
    obtain ⟨hafter, hanswer⟩ := h.reply c.1 c.2
    rw [Session.recital, Session.recital, List.map_cons, List.map_cons, hanswer, ih hafter]

end Twin
end Session
end DexQuery
