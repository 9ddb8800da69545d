import DexQuery.Proofs.Cache.Entry
import DexQuery.Session.Run

/-!
# What questions store

Asking a session changes files in one way only: unit texts that its engine has just given are put
into the cache under the session's key, where none were found (`Session.stores_runOn`). This holds
of every question, however it ends. So nothing that could be found is lost
(`Cache.Stores.get_of_eq_some`), and each new file is the engine's text of its own entry
(`Cache.Stores.file`).
-/

namespace DexQuery

/-! ## Storing texts of an engine -/

/-- Files become others by storing unit texts of the engine under the key, where none were
found. -/
inductive Cache.Stores (c : Cache) (key : String) (e : Engine) (files : Files.Tree) :
    Files.Tree → Prop where
  | refl : Stores c key e files files
  | put {files' : Files.Tree} {b : Bucket} {t : TypeId} {text : String}
      (before : Stores c key e files files') (missing : c.get files' key b t.raw = none)
      (own : e.unitText b t = .ok (some text)) :
      Stores c key e files (c.put files' key b t.raw text).2

namespace Cache.Stores

variable {c : Cache} {key : String} {e : Engine} {files files' files'' : Files.Tree}

theorem trans (h : c.Stores key e files files') (h' : c.Stores key e files' files'') :
    c.Stores key e files files'' := by
  induction h' with
  | refl => exact h
  | put _ missing own ih => exact ih.put missing own

/-- What is found afterwards was found before or is the engine's own. -/
theorem get_eq_some (h : c.Stores key e files files') {key' : String} {b : Bucket}
    {name text : String} (hget : c.get files' key' b name = some text) :
    c.get files key' b name = some text ∨
      (key = key' ∧ e.unitText b ⟨name⟩ = .ok (some text)) := by
  induction h with
  | refl => exact .inl hget
  | put _ _ own ih =>
    rcases get_put hget with hbefore | ⟨hkey, rfl, rfl, rfl⟩
    · exact ih hbefore
    · exact .inr ⟨hkey, own⟩

theorem filledBelow (h : c.Stores key e files files') : files.FilledBelow c.root files' := by
  induction h with
  | refl => exact .refl _ _
  | put _ _ _ ih => exact ih.trans (filledBelow_put ..)

/-- What was found before is found afterwards. -/
theorem get_of_eq_some (h : c.Stores key e files files') {key' : String} {b : Bucket}
    {name text : String} (hget : c.get files key' b name = some text) :
    c.get files' key' b name = some text := by
  induction h with
  | refl => exact hget
  | @put files' b' t text' _ missing _ ih =>
    cases hput : c.put files' key b' t.raw text' with
    | mk result files'' =>
      cases result with
      | error f => exact (get_put_of_error hput ..).trans ih
      | ok _ =>
        refine (get_put_of_ne hput ?_).trans ih
        rintro ⟨rfl, rfl, rfl⟩
        rw [missing] at ih
        cases ih

/-- A file afterwards was there before, or it is an entry with a text of the engine. -/
theorem file (h : c.Stores key e files files') {q : Files.Path} {bytes : ByteArray}
    (hq : files'.node? q = some (.file bytes)) : files.node? q = some (.file bytes) ∨
      ∃ b t p text, entry? key b t.raw = some p ∧ q = c.root ++ p ∧ bytes = text.toUTF8 ∧
        e.unitText b t = .ok (some text) := by
  induction h with
  | refl => exact .inl hq
  | @put files' b t text _ _ own ih =>
    rcases put_cases c files' key b t.raw text with
      ⟨f, files'', hput, hfiles⟩ | ⟨p, files'', hp, -, hput, hnode, hothers⟩
    · rw [hput] at hq
      exact ih ((hfiles q bytes).1 hq)
    · rw [hput] at hq
      by_cases hpq : c.root ++ p = q
      · subst hpq
        rw [hnode] at hq
        exact .inr ⟨b, t, p, text, hp, rfl, (Files.Node.file.inj (Option.some.inj hq)).symm, own⟩
      · exact ih ((hothers q bytes hpq).1 hq)

end Cache.Stores

/-- What the files can have gained: entries of the cache, each with the text that the engine gives
for its bucket and name. Directories for them may have been made. -/
structure Cache.Gains (c : Cache) (key : String) (e : Engine) (files files' : Files.Tree) :
    Prop where
  /-- Every entry that could be found is found unchanged. -/
  kept : ∀ key' b name text,
    c.get files key' b name = some text → c.get files' key' b name = some text
  /-- Every other entry that is found has the engine's own text. -/
  found : ∀ key' b name text, c.get files' key' b name = some text →
    c.get files key' b name = some text ∨ (key = key' ∧ e.unitText b ⟨name⟩ = .ok (some text))
  /-- Every file that was not there before is such an entry. -/
  entries : ∀ q bytes, files'.node? q = some (.file bytes) → files.node? q = some (.file bytes) ∨
    ∃ b t p text, entry? key b t.raw = some p ∧ q = c.root ++ p ∧ bytes = text.toUTF8 ∧
      e.unitText b t = .ok (some text)
  /-- Nothing is changed outside of the cache. -/
  elsewhere : files.FilledBelow c.root files'

theorem Cache.Stores.gains {c : Cache} {key : String} {e : Engine} {files files' : Files.Tree}
    (h : c.Stores key e files files') : c.Gains key e files files' where
  kept _ _ _ _ := h.get_of_eq_some
  found _ _ _ _ := h.get_eq_some
  entries _ _ := h.file
  elsewhere := h.filledBelow

namespace Session

/-- Files become others by storing unit texts of the engine under the session's key. -/
abbrev Stores (s : Session) (e : Engine) (files files' : Files.Tree) : Prop :=
  s.cache.Stores s.cacheKey e files files'

/-! ## Questions -/

variable {s : Session} {e : Engine} {files : Files.Tree}

theorem stores_keepUnitText {b : Bucket} {t : TypeId} {text : String}
    (hmissing : s.cache.get files s.cacheKey b t.raw = none)
    (hown : e.unitText b t = .ok (some text)) :
    s.Stores e files (s.keepUnitText b t text files).2 := by
  have hstores : s.Stores e files (s.cache.put files s.cacheKey b t.raw text).2 :=
    Cache.Stores.refl.put hmissing hown
  rw [keepUnitText]
  cases hput : s.cache.put files s.cacheKey b t.raw text with
  | mk result files' =>
    rw [hput] at hstores
    cases result <;> exact hstores

/-- Only a text that the engine has just given is put into the cache. -/
theorem stores_unitText (s : Session) (e : Engine) (b : Bucket) (t : TypeId)
    (files : Files.Tree) : s.Stores e files (s.unitText e b t files).2 := by
  rw [unitText]
  cases hmissing : s.cache.get files s.cacheKey b t.raw with
  | some text => exact .refl
  | none =>
    cases hreply : e.unitText b t with
    | error fault => exact .refl
    | ok found =>
      cases found with
      | none => exact .refl
      | some text => exact stores_keepUnitText hmissing hreply

theorem stores_decompileClass (s : Session) (e : Engine) (t : TypeId) (files : Files.Tree) :
    s.Stores e files (s.decompileClass e t files).2 := by
  have hunit := s.stores_unitText e .source t files
  unfold decompileClass
  split
  · rename_i heq
    rwa [heq] at hunit
  · rename_i heq
    rw [heq] at hunit
    split
    · exact hunit
    · split <;> exact hunit

theorem stores_methodSource (s : Session) (e : Engine) (m : MethodId) (span : Source.Span)
    (files : Files.Tree) : s.Stores e files (s.methodSource e m span files).2 := by
  have hunit := s.stores_unitText e .source m.owner files
  unfold methodSource
  split
  · exact .refl
  · split
    · rename_i heq
      rwa [heq] at hunit
    · rename_i heq
      rwa [heq] at hunit

theorem stores_decompileMethod (s : Session) (e : Engine) (m : MethodId) (files : Files.Tree) :
    s.Stores e files (s.decompileMethod e m files).2 := by
  unfold decompileMethod
  split
  · exact .refl
  · rename_i span _
    have hsource := s.stores_methodSource e m span files
    split
    · rename_i heq
      rwa [heq] at hsource
    · rename_i files₁ heq
      rw [heq] at hsource
      have hunit := s.stores_unitText e .disasm m.owner files₁
      split
      · rename_i heq'
        rw [heq'] at hunit
        exact hsource.trans hunit
      · rename_i heq'
        rw [heq'] at hunit
        exact hsource.trans hunit

theorem stores_scanType (q : StringSearch) (s : Session) (e : Engine) (t : TypeId)
    (files : Files.Tree) : s.Stores e files (q.scanType s e t files).2 := by
  have hunit := s.stores_unitText e .source t files
  unfold StringSearch.scanType
  split
  · rename_i heq
    rwa [heq] at hunit
  · rename_i heq
    rwa [heq] at hunit
  · rename_i heq
    rw [heq] at hunit
    split
    · exact hunit
    · split <;> exact hunit

theorem stores_scanTypes (q : StringSearch) (s : Session) (e : Engine) (ts : List TypeId)
    (files : Files.Tree) : s.Stores e files (q.scanTypes s e ts files).2 := by
  induction ts generalizing files with
  | nil => exact .refl
  | cons t ts ih =>
    have hfirst := stores_scanType q s e t files
    unfold StringSearch.scanTypes
    split
    · rename_i heq
      rwa [heq] at hfirst
    · rename_i files₁ heq
      rw [heq] at hfirst
      have hrest := ih files₁
      split
      · rename_i heq'
        rw [heq'] at hrest
        exact hfirst.trans hrest
      · rename_i heq'
        rw [heq'] at hrest
        exact hfirst.trans hrest

theorem stores_searchStrings (s : Session) (e : Engine) (q : StringSearch) (files : Files.Tree) :
    s.Stores e files (s.searchStrings e q files).2 := by
  unfold searchStrings
  split
  · exact .refl
  · rename_i types _
    have hscan := stores_scanTypes q s e (StringSearch.searchOrder types) files
    split
    · rename_i heq
      rwa [heq] at hscan
    · rename_i heq
      rwa [heq] at hscan

/-- Whatever is asked, and however it ends, nothing is stored but unit texts of the engine. -/
theorem stores_runOn (s : Session) (e : Engine) (files : Files.Tree) (r : Request) :
    s.Stores e files (s.runOn e files r).files := by
  cases r with
  | decompileClass t => exact s.stores_decompileClass e t files
  | decompileMethod m => exact s.stores_decompileMethod e m files
  | searchStrings q => exact s.stores_searchStrings e q files
  | _ => exact .refl

theorem stores_run (s : Session) (files : Files.Tree) (r : Request) :
    (s.run files r).2.2 = files ∨
      ∃ e, s.engine = some e ∧ s.Stores e files (s.run files r).2.2 := by
  cases he : s.engine with
  | none =>
    rw [run, he]
    exact .inl rfl
  | some e =>
    rw [run_of_engine he]
    exact .inr ⟨e, rfl, s.stores_runOn e files r⟩

end Session
end DexQuery
