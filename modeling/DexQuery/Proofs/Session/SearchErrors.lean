import DexQuery.Proofs.Permuted
import DexQuery.Proofs.Session.StringSearch

/-!
# A search goes around errors

Errors of the engine are confined to the types that they are about. A search over an engine that
errs finds what it finds over the same engine with nothing where it errs (`Engine.withoutErrors`):
no source for a type whose source it cannot give, and no methods for a type whose methods it cannot
all locate, whatever it has located before the error. It tells of each of these types in one
warning, in the order of the search (`Session.run_searchStrings_withoutErrors`).
-/

namespace DexQuery

/-! ## Errors, and an engine without them -/

theorem errorOf?_eq_some_iff {α : Type} {r : Reply α} {causes : List String} :
    errorOf? r = some causes ↔ r = .error (.error causes) := by
  constructor
  · intro h
    rw [errorOf?.eq_def] at h
    split at h
    · rw [Option.some.inj h]
    · cases h
  · rintro rfl
    rfl

namespace Engine

/-- The methods of a type cannot be found out, or not all be located, because of an error. -/
def MethodsFail (e : Engine) (t : TypeId) : Prop :=
  (∃ causes, e.methods t = .error (.error causes)) ∨
    ∃ m ∈ e.methodIds t, ∃ causes, e.memberSpan m = .error (.error causes)

theorem attributionError?_ne_none_iff {e : Engine} {t : TypeId} :
    e.attributionError? t ≠ none ↔ e.MethodsFail t := by
  simp only [attributionError?, MethodsFail, ← errorOf?_eq_some_iff, ne_eq, Option.or_eq_none_iff,
    List.findSome?_eq_none_iff, not_and_or, Option.ne_none_iff_exists', not_forall, exists_prop]

/-- The engine with nothing where it errs about sources and about where methods are. -/
def withoutErrors (e : Engine) : Engine :=
  { e with
    unitSource := fun t => if (errorOf? (e.unitSource t)).isSome then .ok none else e.unitSource t
    methods := fun t => if (e.attributionError? t).isSome then .ok none else e.methods t }

variable {e : Engine} {t : TypeId}

theorem attributionError?_eq_none_iff : e.attributionError? t = none ↔ ¬ e.MethodsFail t := by
  rw [← attributionError?_ne_none_iff, not_not]

/-- The methods of a type are left out if they fail, and else left as they are. -/
theorem methods_withoutErrors_cases (e : Engine) (t : TypeId) :
    (e.MethodsFail t ∧ e.withoutErrors.methods t = .ok none) ∨
      (¬ e.MethodsFail t ∧ e.withoutErrors.methods t = e.methods t) := by
  by_cases h : e.MethodsFail t
  · exact .inl ⟨h, if_pos (Option.isSome_iff_ne_none.2 (attributionError?_ne_none_iff.2 h))⟩
  · refine .inr ⟨h, if_neg ?_⟩
    rwa [Option.isSome_iff_ne_none, attributionError?_ne_none_iff]

theorem methodIds_of_methods {e' : Engine} (h : e'.methods t = e.methods t) :
    e'.methodIds t = e.methodIds t := by
  rw [methodIds, methodIds, h]

theorem methodIds_of_none (h : e.methods t = .ok none) : e.methodIds t = [] := by
  rw [methodIds, h]
  rfl

theorem not_methodsFail_withoutErrors (e : Engine) (t : TypeId) :
    ¬ e.withoutErrors.MethodsFail t := by
  rcases e.methods_withoutErrors_cases t with ⟨-, hmethods⟩ | ⟨h, hmethods⟩
  · rw [MethodsFail, hmethods, methodIds_of_none hmethods]
    simp
  · rw [MethodsFail, hmethods, methodIds_of_methods hmethods]
    exact h

theorem methodAt?_of_fail (h : e.MethodsFail t) (unit : String) (n : Nat) :
    e.methodAt? t unit n = none := by
  obtain ⟨causes, hcauses⟩ := Option.ne_none_iff_exists'.1 (attributionError?_ne_none_iff.2 h)
  rw [methodAt?, hcauses]

/-- Without errors, each byte belongs to the same method, or to none as before. -/
theorem methodAt?_withoutErrors (e : Engine) (t : TypeId) (unit : String) (n : Nat) :
    e.withoutErrors.methodAt? t unit n = e.methodAt? t unit n := by
  rw [methodAt?, attributionError?_eq_none_iff.2 (e.not_methodsFail_withoutErrors t)]
  rcases e.methods_withoutErrors_cases t with ⟨h, hmethods⟩ | ⟨h, hmethods⟩
  · rw [methodAt?_of_fail h, methodIds_of_none hmethods]
    rfl
  · rw [methodAt?, attributionError?_eq_none_iff.2 h, methodIds_of_methods hmethods]
    rfl

theorem hits_withoutErrors (e : Engine) (unit : TypeId → Option String) (accepts : String → Bool)
    (ts : List TypeId) : e.withoutErrors.hits unit accepts ts = e.hits unit accepts ts := by
  have hhitsIn : e.withoutErrors.hitsIn accepts = e.hitsIn accepts := by
    funext t text
    simp only [hitsIn, methodAt?_withoutErrors]
  rw [hits, hits, hhitsIn]

/-- The source of a type is left out if it fails, and else left as it is. -/
theorem unitSource_withoutErrors_cases (e : Engine) (t : TypeId) :
    (∃ causes, e.unitSource t = .error (.error causes) ∧ e.withoutErrors.unitSource t = .ok none) ∨
      (errorOf? (e.unitSource t) = none ∧ e.withoutErrors.unitSource t = e.unitSource t) := by
  cases h : errorOf? (e.unitSource t) with
  | some causes => exact .inl ⟨causes, errorOf?_eq_some_iff.1 h, if_pos (by rw [h]; rfl)⟩
  | none => exact .inr ⟨rfl, if_neg (by rw [h]; exact Bool.false_ne_true)⟩

theorem errorOf?_unitSource_withoutErrors (e : Engine) (t : TypeId) :
    errorOf? (e.withoutErrors.unitSource t) = none := by
  rcases e.unitSource_withoutErrors_cases t with ⟨causes, -, hsource⟩ | ⟨h, hsource⟩
  · rw [hsource]
    rfl
  · rw [hsource, h]

/-- What does not panic does not panic without errors either. -/
theorem CalmAt.withoutErrors (h : e.CalmAt t) : e.withoutErrors.CalmAt t where
  source message := by
    rcases e.unitSource_withoutErrors_cases t with ⟨causes, -, hsource⟩ | ⟨-, hsource⟩
    · rw [hsource]
      exact nofun
    · rw [hsource]
      exact h.source message
  methods message := by
    rcases e.methods_withoutErrors_cases t with ⟨-, hmethods⟩ | ⟨-, hmethods⟩
    · rw [hmethods]
      exact nofun
    · rw [hmethods]
      exact h.methods message
  spans m hm := by
    rcases e.methods_withoutErrors_cases t with ⟨-, hmethods⟩ | ⟨-, hmethods⟩
    · rw [methodIds_of_none hmethods] at hm
      cases hm
    · rw [methodIds_of_methods hmethods] at hm
      exact h.spans m hm

end Engine

namespace Session

variable {s : Session} {e : Engine} {files : Files.Tree} {t : TypeId}

/-- The session has no source of the type, because of an error. -/
def SourceFails (s : Session) (e : Engine) (files : Files.Tree) (t : TypeId) : Prop :=
  s.cache.get files s.cacheKey .source t.raw = none ∧
    ∃ causes, e.unitSource t = .error (.error causes)

/-- Without errors, the session gets the same sources. -/
theorem unit?_withoutErrors (s : Session) (e : Engine) (files : Files.Tree) (t : TypeId) :
    s.unit? e.withoutErrors .source files t = s.unit? e .source files t := by
  rw [unit?, unit?, Engine.unitText, Engine.unitText]
  rcases e.unitSource_withoutErrors_cases t with ⟨causes, herror, hsource⟩ | ⟨-, hsource⟩
  · rw [hsource, herror]
    rfl
  · rw [hsource]

theorem unit?_of_sourceFails (h : s.SourceFails e files t) : s.unit? e .source files t = none := by
  obtain ⟨hget, causes, hsource⟩ := h
  rw [unit?_of_not_cached hget, Engine.unitText, hsource]
  rfl

theorem note?_withoutErrors (s : Session) (e : Engine) (files : Files.Tree) (t : TypeId) :
    s.note? e.withoutErrors files t = none := by
  rw [note?_eq, e.errorOf?_unitSource_withoutErrors,
    Engine.attributionError?_eq_none_iff.2 (e.not_methodsFail_withoutErrors t)]
  cases s.unit? e.withoutErrors .source files t <;> rfl

/-! ## What is told -/

/-- What is told at a type: that it is skipped if its source fails, or else, if there is a source,
that its literals are not attributed if its methods fail. Nothing is told at other types. -/
inductive NotedAt (s : Session) (e : Engine) (files : Files.Tree) (t : TypeId) :
    Option String → Prop
  | skipped {causes : List String} (hsource : s.SourceFails e files t)
      (herror : e.unitSource t = .error (.error causes)) :
      NotedAt s e files t (some (skipped t causes))
  | unattributed {unit : String} {causes : List String}
      (hunit : s.unit? e .source files t = some unit) (hmethods : e.MethodsFail t)
      (hfirst : e.attributionError? t = some causes) :
      NotedAt s e files t (some (unattributed t causes))
  | nothing (hsource : ¬ s.SourceFails e files t)
      (hmethods : e.MethodsFail t → s.unit? e .source files t = none) : NotedAt s e files t none

theorem notedAt_note? (s : Session) (e : Engine) (files : Files.Tree) (t : TypeId) :
    s.NotedAt e files t (s.note? e files t) := by
  rw [note?_eq]
  cases hunit : s.unit? e .source files t with
  | some unit =>
    have hsource : ¬ s.SourceFails e files t := by
      intro h
      rw [unit?_of_sourceFails h] at hunit
      cases hunit
    cases herror : e.attributionError? t with
    | none =>
      have hmethods := Engine.attributionError?_eq_none_iff.1 herror
      exact .nothing hsource fun h => absurd h hmethods
    | some causes =>
      refine .unattributed hunit (Engine.attributionError?_ne_none_iff.1 ?_) herror
      rw [herror]
      exact Option.some_ne_none _
  | none =>
    cases herror : errorOf? (e.unitSource t) with
    | none =>
      refine .nothing ?_ fun _ => hunit
      rintro ⟨-, causes, hsource⟩
      rw [errorOf?_eq_some_iff.2 hsource] at herror
      cases herror
    | some causes =>
      have hsource := errorOf?_eq_some_iff.1 herror
      exact .skipped ⟨not_cached_of_unit? hunit, causes, hsource⟩ hsource

/-! ## The search -/

open StringSearch

/-- All types that are listed are searched, each as often as it is listed. -/
theorem searchOrder_perm (ts : List TypeSummary) :
    (searchOrder ts).Perm (ts.map fun t => ⟨t.rawName⟩) := (List.mergeSort_perm ts _).map _

/-- Types are searched in the order of the bytes of their raw names. -/
theorem searchOrder_pairwise (ts : List TypeSummary) :
    (searchOrder ts).Pairwise fun t u => Text.bytes t.raw ≤ Text.bytes u.raw :=
  List.pairwise_map.2 ((pairwise_mergeSort_key (fun t : TypeSummary => t.rawName) ts).imp
    Text.bytes_le_iff.2)

/-- How a search over the types goes that gives `out`, where it gives `ref` over the engine without
errors: the same is found, in which there is nothing of a type whose source fails, and no method at
a literal of a type whose methods fail; and `out` tells of the errors, type by type. -/
structure GoesAround (s : Session) (e : Engine) (files : Files.Tree) (q : StringSearch)
    (types : List TypeSummary) (out ref : Output) : Prop where
  data : out.data = ref.data
  truncated : out.truncated = ref.truncated
  found : Reports q.limit (e.withoutErrors.hits (s.unit? e.withoutErrors .source files) q.accepts
    (searchOrder types)) ref
  absent : ∀ t, s.SourceFails e files t → s.unit? e.withoutErrors .source files t = none
  unattributed : ∀ t, e.MethodsFail t → ∀ unit n, e.withoutErrors.methodAt? t unit n = none
  told : besidesCache out.warnings = (searchOrder types).filterMap (s.note? e files)
  noted : ∀ t, s.NotedAt e files t (s.note? e files t)
  silent : besidesCache ref.warnings = []
  order : (searchOrder types).Perm (types.map fun t => ⟨t.rawName⟩) ∧
    (searchOrder types).Pairwise fun t u => Text.bytes t.raw ≤ Text.bytes u.raw

theorem unit?_withEngine (s : Session) (e e' : Engine) (b : Bucket) (files : Files.Tree) :
    (s.withEngine e').unit? e b files = s.unit? e b files := rfl

theorem note?_withEngine (s : Session) (e e' : Engine) (files : Files.Tree) :
    (s.withEngine e').note? e files = s.note? e files := rfl

/-- What a search gives over an engine that lists its types and does not panic. -/
theorem searchStrings_of_calm {types : List TypeSummary} (htypes : e.types = .ok types)
    (hcalm : ∀ t ∈ searchOrder types, e.CalmAt t) (s : Session) (files : Files.Tree)
    (q : StringSearch) :
    ∃ found, (s.searchStrings e q files).1 = .ok (q.answer s found) ∧
      found.hits = e.hits (s.unit? e .source files) q.accepts (searchOrder types) ∧
      besidesCache found.warnings = (searchOrder types).filterMap (s.note? e files) := by
  rcases s.searchStrings_cases e q files with ⟨-, hpanic⟩ | ⟨types', found, htypes', hfound⟩
  · obtain ⟨t, ht, hnot⟩ := hpanic types htypes
    exact absurd (hcalm t ht) hnot
  · obtain rfl := Except.ok.inj (htypes.symm.trans htypes')
    exact ⟨found, hfound⟩

/-- **Errors about some types leave the search of the others as it is.** If the engine lists its
types and does not panic, a search succeeds, finds what it finds without errors, and tells of the
errors. -/
theorem run_searchStrings_withoutErrors {types : List TypeSummary} (hengine : s.engine = some e)
    (htypes : e.types = .ok types) (hcalm : ∀ t ∈ types, e.CalmAt ⟨t.rawName⟩)
    (files : Files.Tree) (q : StringSearch) :
    ∃ out ref, (s.run files (.searchStrings q)).1 = .ok out ∧
      ((s.withEngine e.withoutErrors).run files (.searchStrings q)).1 = .ok ref ∧
      s.GoesAround e files q types out ref := by
  have hsearched : ∀ t ∈ searchOrder types, e.CalmAt t := by
    intro t ht
    obtain ⟨summary, hsummary, rfl⟩ := List.mem_map.1 ((searchOrder_perm types).mem_iff.1 ht)
    exact hcalm summary hsummary
  have htypes' : e.withoutErrors.types = .ok types := htypes
  obtain ⟨found, hfound, hhits, htold⟩ := searchStrings_of_calm htypes hsearched s files q
  obtain ⟨found', hfound', hhits', htold'⟩ := searchStrings_of_calm htypes'
    (fun t ht => (hsearched t ht).withoutErrors) (s.withEngine e.withoutErrors) files q
  have hunit : s.unit? e.withoutErrors .source files = s.unit? e .source files :=
    funext fun t => s.unit?_withoutErrors e files t
  rw [unit?_withEngine] at hhits'
  rw [note?_withEngine] at htold'
  have hsame : found'.hits = found.hits := by rw [hhits', hhits, Engine.hits_withoutErrors, hunit]
  refine ⟨q.answer s found, q.answer s found', ?_, ?_, ?_⟩
  · rw [run_of_engine hengine]
    exact congrArg (Except.mapError Abort.failure) hfound
  · rw [run_of_engine rfl]
    exact congrArg (Except.mapError Abort.failure) hfound'
  · exact
      { data := by rw [StringSearch.answer, StringSearch.answer, hsame]
        truncated := by rw [StringSearch.answer, StringSearch.answer, hsame]
        found := hhits' ▸ reports_answer q s found'
        absent := fun t ht => by rw [unit?_withoutErrors, unit?_of_sourceFails ht]
        unattributed := fun t ht unit n => by
          rw [Engine.methodAt?_withoutErrors, Engine.methodAt?_of_fail ht]
        told := htold
        noted := s.notedAt_note? e files
        silent := by
          refine htold'.trans (List.filterMap_eq_nil_iff.2 fun t _ => ?_)
          exact s.note?_withoutErrors e files t
        order := ⟨searchOrder_perm types, searchOrder_pairwise types⟩ }

/-- The engine of the sample, failing at the source of one type and at the methods of the other. -/
def failingEngine : Engine :=
  { sampleArtifact.engine with
    unitSource := fun t =>
      if t.raw = "p/B" then .error (.error ["no source"]) else sampleArtifact.engine.unitSource t
    memberSpan := fun _ => .error (.error ["no span", "lost"]) }

/-- The literals of one type are found and belong to no method; the other type is skipped. -/
theorem run_searchStrings_withoutErrors_sample :
    (∀ t ∈ sampleArtifact.types.map (·.summary), failingEngine.CalmAt ⟨t.rawName⟩) ∧
      ∃ out ref,
        ((sampleSession.withEngine failingEngine).run .empty (.searchStrings sampleSearch)).1 =
          .ok out ∧
        ((sampleSession.withEngine failingEngine.withoutErrors).run .empty
          (.searchStrings sampleSearch)).1 = .ok ref ∧
        (sampleSession.withEngine failingEngine).GoesAround failingEngine .empty sampleSearch
          (sampleArtifact.types.map (·.summary)) out ref ∧
        besidesCache out.warnings =
          ["method attribution unavailable for Lp/A;: no span: lost",
            "skipped Lp/B;: Engine error: no source"] := by
  have hcalm : ∀ t ∈ sampleArtifact.types.map (·.summary), failingEngine.CalmAt ⟨t.rawName⟩ := by
    intro t _
    refine ⟨fun message => ?_, nofun, nofun⟩
    simp only [failingEngine]
    split <;> exact nofun
  have htypes : failingEngine.types = .ok (sampleArtifact.types.map (·.summary)) := rfl
  obtain ⟨out, ref, hout, href, haround⟩ := run_searchStrings_withoutErrors
    (s := sampleSession.withEngine failingEngine) rfl htypes hcalm .empty sampleSearch
  refine ⟨hcalm, out, ref, hout, href, haround, ?_⟩
  rw [haround.told, searchOrder_eq, rawNames_sampleArtifact]
  decide +kernel

end Session
end DexQuery
