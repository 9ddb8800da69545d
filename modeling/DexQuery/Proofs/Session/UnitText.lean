import DexQuery.Proofs.Session.Uncached

/-!
# The unit text that a session gets

A session gets the text that the cache has for a unit, else the engine's (`Session.unit?`). Getting
one puts nothing into the cache but what would have been got anyway, so what is got for any unit is
the same before and after (`Session.unit?_unitText`), and where the cache holds only texts of the
engine it is the engine's own (`Session.Faithful.unit?_eq`).
-/

namespace DexQuery
namespace Session

/-- The text that the session gets for a unit, if there is one. -/
def unit? (s : Session) (e : Engine) (b : Bucket) (files : Files.Tree) (t : TypeId) :
    Option String :=
  match s.cache.get files s.cacheKey b t.raw with
  | some text => some text
  | none => (e.unitText b t).toOption.join

variable {s : Session} {e : Engine} {files : Files.Tree} {b b' : Bucket} {t : TypeId}

theorem unit?_of_cached {text : String}
    (h : s.cache.get files s.cacheKey b t.raw = some text) : s.unit? e b files t = some text := by
  simp only [unit?, h]

theorem unit?_of_not_cached (h : s.cache.get files s.cacheKey b t.raw = none) :
    s.unit? e b files t = (e.unitText b t).toOption.join := by
  simp only [unit?, h]

theorem not_cached_of_unit? (h : s.unit? e b files t = none) :
    s.cache.get files s.cacheKey b t.raw = none := by
  cases hget : s.cache.get files s.cacheKey b t.raw with
  | none => rfl
  | some text =>
    rw [unit?_of_cached hget] at h
    cases h

/-- What is found in the cache is all that matters about files. -/
theorem unit?_congr {files' : Files.Tree}
    (h : s.cache.get files' s.cacheKey b t.raw = s.cache.get files s.cacheKey b t.raw) :
    s.unit? e b files' t = s.unit? e b files t := by
  simp only [unit?, h]

/-- A text of the engine that is put into the cache, where there was none, is got as before. -/
theorem unit?_keepUnitText {text : String} (hnone : s.cache.get files s.cacheKey b t.raw = none)
    (hown : e.unitText b t = .ok (some text)) (b' : Bucket) (t' : TypeId) :
    s.unit? e b' (s.keepUnitText b t text files).2 t' = s.unit? e b' files t' := by
  rw [keepUnitText]
  cases hput : s.cache.put files s.cacheKey b t.raw text with
  | mk result files' =>
    cases result with
    | error f => exact unit?_congr (Cache.get_put_of_error hput ..)
    | ok _ =>
      by_cases hsame : b = b' ∧ t.raw = t'.raw
      · obtain ⟨rfl, hraw⟩ := hsame
        obtain rfl : t = t' := by
          cases t
          cases t'
          exact congrArg TypeId.mk hraw
        rw [unit?_of_not_cached hnone, hown]
        exact unit?_of_cached (Cache.get_put_self hput)
      · refine unit?_congr (Cache.get_put_of_ne hput ?_)
        exact fun h => hsame h.2

/-- **Getting a unit text changes none that is got.** -/
theorem unit?_unitText (s : Session) (e : Engine) (b : Bucket) (t : TypeId) (files : Files.Tree)
    (b' : Bucket) (t' : TypeId) :
    s.unit? e b' (s.unitText e b t files).2 t' = s.unit? e b' files t' := by
  rw [unitText]
  cases hget : s.cache.get files s.cacheKey b t.raw with
  | some text => rfl
  | none =>
    cases hreply : e.unitText b t with
    | error fault => rfl
    | ok own =>
      cases own with
      | none => rfl
      | some text => exact unit?_keepUnitText hget hreply b' t'

/-! ## Getting a text, and its warnings -/

/-- The warnings about putting a unit text into the cache: one if that was tried and failed. -/
inductive KeepWarnings (s : Session) (b : Bucket) (t : TypeId) (files : Files.Tree) :
    List String → Prop
  | none : KeepWarnings s b t files []
  | failed {text : String} {f : Failure}
      (h : (s.cache.put files s.cacheKey b t.raw text).1 = .error f) :
      KeepWarnings s b t files ["cache write failed for " ++ t.text ++ ": " ++ f.message]

theorem KeepWarnings.length_le {ws : List String} (h : s.KeepWarnings b t files ws) :
    ws.length ≤ 1 := by
  cases h <;> simp

/-- A cache that takes every text gives no warnings. -/
theorem KeepWarnings.eq_nil {ws : List String} (h : s.KeepWarnings b t files ws)
    (hworks : ∀ text, (s.cache.put files s.cacheKey b t.raw text).1 = .ok ()) : ws = [] := by
  cases h with
  | none => rfl
  | failed hfailed =>
    rw [hworks] at hfailed
    cases hfailed

theorem unitText_of_fault (hnone : s.cache.get files s.cacheKey b t.raw = none) {fault : Fault}
    (h : e.unitText b t = .error fault) :
    s.unitText e b t files = (.error (.ofFault fault), files) := by
  simp only [unitText, hnone, h, ask]

/-- Getting a unit text fails by a fault of the engine, and only where the cache has none. Else the
text is the one that the session gets, and warnings come from the cache. -/
theorem unitText_cases (s : Session) (e : Engine) (b : Bucket) (t : TypeId) (files : Files.Tree) :
    (∃ fault, s.cache.get files s.cacheKey b t.raw = none ∧ e.unitText b t = .error fault ∧
      s.unitText e b t files = (.error (.ofFault fault), files)) ∨
    ∃ kept, s.KeepWarnings b t files kept ∧ s.unitText e b t files =
      (.ok ⟨s.unit? e b files t, kept⟩, (s.unitText e b t files).2) := by
  cases hget : s.cache.get files s.cacheKey b t.raw with
  | some text =>
    rw [unitText, hget, unit?_of_cached hget]
    exact .inr ⟨[], .none, rfl⟩
  | none =>
    cases hreply : e.unitText b t with
    | error fault => exact .inl ⟨fault, rfl, rfl, unitText_of_fault hget hreply⟩
    | ok own =>
      rw [unit?_of_not_cached hget, unitText, hget, hreply]
      cases own with
      | none => exact .inr ⟨[], .none, rfl⟩
      | some text =>
        simp only [ask, keepUnitText]
        cases hput : s.cache.put files s.cacheKey b t.raw text with
        | mk result files' =>
          cases result with
          | ok _ => exact .inr ⟨[], .none, rfl⟩
          | error f => exact .inr ⟨_, .failed (congrArg Prod.fst hput), rfl⟩

/-- A text that the session gets can be got. -/
theorem unitText_of_unit? {text : String} (h : s.unit? e b files t = some text) :
    ∃ warnings, s.unitText e b t files =
      (.ok ⟨some text, warnings⟩, (s.unitText e b t files).2) := by
  rcases s.unitText_cases e b t files with ⟨fault, hget, hfault, -⟩ | ⟨kept, -, hgot⟩
  · rw [unit?_of_not_cached hget, hfault] at h
    cases h
  · rw [h] at hgot
    exact ⟨kept, hgot⟩

/-- A unit text that is got is the one that the session gets, and warnings come from the cache. -/
theorem unitText_eq_ok {fetched : Fetched} (h : (s.unitText e b t files).1 = .ok fetched) :
    fetched.text = s.unit? e b files t ∧ s.KeepWarnings b t files fetched.warnings := by
  rcases s.unitText_cases e b t files with ⟨fault, -, -, hfailed⟩ | ⟨kept, hkept, hgot⟩
  · rw [hfailed] at h
    cases h
  · rw [hgot] at h
    obtain rfl := Except.ok.inj h
    exact ⟨rfl, hkept⟩

/-- Where the cache has only texts of the engine, the engine's own text is got. -/
theorem Faithful.unit?_eq (hf : s.Faithful e files) (b : Bucket) (t : TypeId) :
    s.unit? e b files t = (e.unitText b t).toOption.join := by
  cases hget : s.cache.get files s.cacheKey b t.raw with
  | none => exact unit?_of_not_cached hget
  | some text =>
    rw [unit?_of_cached hget, hf b t text hget]
    rfl

end Session
end DexQuery
