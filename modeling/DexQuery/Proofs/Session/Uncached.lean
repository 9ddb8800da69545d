import DexQuery.Proofs.Session.Stores
import DexQuery.Envelope

/-!
# Answers without the cache

Three questions go to the cache before they go to the engine. This module answers them by the
engine alone (`Session.runOnUncached`), and shows that the cache makes no difference but in the
warnings (`Session.runOn_uncached`) as long as it is `Faithful`: whatever it has for the session is
what the engine would say. Questions keep it so, because nothing but the engine's own texts is
ever stored (`Session.Faithful.stores`).
-/

namespace DexQuery

/-- An answer without its warnings. -/
def Output.silent (o : Output) : Output := { o with warnings := [] }

/-- An envelope without its warnings. -/
def Envelope.silent (e : Envelope) : Envelope := { e with warnings := [] }

/-- Results that `view` shows alike are the same error, or values that it shows alike. -/
theorem cases_of_map_eq {α β ε : Type} {x y : Except ε α} {view : α → β}
    (h : x.map view = y.map view) : (∃ a, x = .error a ∧ y = .error a) ∨
      ∃ v w, x = .ok v ∧ y = .ok w ∧ view v = view w := by
  cases x with
  | error a =>
    cases y with
    | error a' =>
      obtain rfl := Except.error.inj h
      exact .inl ⟨a, rfl, rfl⟩
    | ok w => cases h
  | ok v =>
    cases y with
    | error a' => cases h
    | ok w => exact .inr ⟨v, w, rfl, rfl, Except.ok.inj h⟩

theorem Envelope.silent_ofResult {query : String} {args : Json} {x y : Except Failure Output}
    (h : x.map Output.silent = y.map Output.silent) :
    (ofResult query args x).silent = (ofResult query args y).silent := by
  rcases cases_of_map_eq h with ⟨f, rfl, rfl⟩ | ⟨out, out', rfl, rfl, hout⟩
  · rfl
  · obtain ⟨hdata, -, htruncated⟩ := Output.mk.inj hout
    simp only [ofResult, success, silent, hdata, htruncated]

/-! ## The answers of the engine alone -/

namespace Session

/-- The session with another engine. -/
def withEngine (s : Session) (e : Engine) : Session := { s with engine := some e }

/-- The source of a type, always asked for. -/
def decompileClassUncached (s : Session) (e : Engine) (t : TypeId) : Except Abort Output :=
  match ask (e.unitText .source t) with
  | .error a => .error a
  | .ok (some java) => .ok (s.classAnswer t (some java) [])
  | .ok none =>
    match askKnown (.typeNotFound t.text) (e.hierarchy t) with
    | .error a => .error a
    | .ok _ => .ok (s.classAnswer t none [noSource t])

/-- The source of a method, always asked for unless the engine has the exact text. -/
def methodSourceUncached (e : Engine) (m : MethodId) (span : Source.Span) :
    Except Abort SourcePart :=
  match span.exactText? with
  | some text => .ok ⟨some ⟨text, .exact⟩, []⟩
  | none =>
    match ask (e.unitText .source m.owner) with
    | .error a => .error a
    | .ok text => .ok (SourcePart.ofUnit m.owner span ⟨text, []⟩)

/-- The source and the disassembly of a method, always asked for. -/
def decompileMethodUncached (s : Session) (e : Engine) (m : MethodId) : Except Abort Output :=
  match askKnown (.methodNotFound m.text) (e.memberSpan m) with
  | .error a => .error a
  | .ok span =>
    match methodSourceUncached e m span with
    | .error a => .error a
    | .ok source =>
      match ask (e.unitText .disasm m.owner) with
      | .error a => .error a
      | .ok text => .ok (s.methodAnswer m span source (disassemblyOf m ⟨text, []⟩))

end Session

namespace StringSearch

/-- Searches one type, whose source is always asked for. -/
def scanTypeUncached (q : StringSearch) (e : Engine) (t : TypeId) : Except Abort Findings :=
  match ask (e.unitText .source t) with
  | .error (.panicked message) => .error (.panicked message)
  | .error (.failed f) => .ok ⟨[], ["skipped " ++ t.text ++ ": " ++ f.message]⟩
  | .ok none => .ok ⟨[], []⟩
  | .ok (some unit) =>
    match attribution e t unit with
    | .error a => .error a
    | .ok (ranges, warnings) => .ok ⟨q.hitsIn t unit ranges, warnings⟩

/-- Searches types one after the other. -/
def scanTypesUncached (q : StringSearch) (e : Engine) : List TypeId → Except Abort Findings
  | [] => .ok ⟨[], []⟩
  | t :: ts =>
    match q.scanTypeUncached e t with
    | .error a => .error a
    | .ok found =>
      match scanTypesUncached q e ts with
      | .error a => .error a
      | .ok rest => .ok (found.append rest)

end StringSearch

namespace Session

/-- Searches the string literals of all types. -/
def searchStringsUncached (s : Session) (e : Engine) (q : StringSearch) : Except Abort Output :=
  match ask e.types with
  | .error a => .error a
  | .ok types =>
    match q.scanTypesUncached e (StringSearch.searchOrder types) with
    | .error a => .error a
    | .ok found => .ok (q.answer s found)

/-- Runs a request by the engine, without a cache: the answer, and the aliases after it. Of the
other requests none looks at a file. -/
def runOnUncached (s : Session) (e : Engine) : Request → Except Abort Output × AliasStore
  | .decompileClass t => (s.decompileClassUncached e t, s.aliases)
  | .decompileMethod m => (s.decompileMethodUncached e m, s.aliases)
  | .searchStrings q => (s.searchStringsUncached e q, s.aliases)
  | r =>
    let result := s.runOn e .empty r
    (result.answer, result.aliases)

/-- Runs a request on a session without a cache. -/
def runUncached (s : Session) (r : Request) : Except Failure Output × Session :=
  match s.engine with
  | none => (.error .sessionClosed, s)
  | some e =>
    let result := s.runOnUncached e r
    (result.1.mapError Abort.failure, { s with aliases := result.2 })

theorem runUncached_of_engine {s : Session} {e : Engine} (h : s.engine = some e) (r : Request) :
    s.runUncached r = ((s.runOnUncached e r).1.mapError Abort.failure,
      { s with aliases := (s.runOnUncached e r).2 }) := by
  simp only [runUncached, h]

/-- A session is changed in its aliases only. -/
theorem runUncached_eq (s : Session) (r : Request) :
    ∃ aliases, (s.runUncached r).2 = { s with aliases := aliases } := by
  unfold runUncached
  split
  · exact ⟨s.aliases, rfl⟩
  · exact ⟨_, rfl⟩

/-! ## What the cache holds for a session -/

/-- What is found in the cache under the session's key is what the engine would say. -/
def Faithful (s : Session) (e : Engine) (files : Files.Tree) : Prop :=
  ∀ b t text, s.cache.get files s.cacheKey b t.raw = some text → e.unitText b t = .ok (some text)

variable {s : Session} {e : Engine} {files files' : Files.Tree}

theorem Faithful.stores (hf : s.Faithful e files) (h : s.Stores e files files') :
    s.Faithful e files' := by
  intro b t text hget
  rcases h.get_eq_some hget with hbefore | ⟨-, hown⟩
  · exact hf b t text hbefore
  · exact hown

/-! ## The three questions -/

/-- The cache gives what the engine gives, with warnings of its own. -/
theorem unitText_uncached (hf : s.Faithful e files) (b : Bucket) (t : TypeId) :
    ∃ warnings, (s.unitText e b t files).1 =
      (ask (e.unitText b t)).map fun text => ⟨text, warnings⟩ := by
  rw [unitText]
  cases hget : s.cache.get files s.cacheKey b t.raw with
  | some text => exact ⟨[], by rw [hf b t text hget]; rfl⟩
  | none =>
    cases e.unitText b t with
    | error fault => exact ⟨[], rfl⟩
    | ok found =>
      cases found with
      | none => exact ⟨[], rfl⟩
      | some text =>
        simp only [ask, keepUnitText]
        cases s.cache.put files s.cacheKey b t.raw text with
        | mk result files' => cases result <;> exact ⟨_, rfl⟩

theorem decompileClass_uncached (hf : s.Faithful e files) (t : TypeId) :
    (s.decompileClass e t files).1.map Output.silent =
      (s.decompileClassUncached e t).map Output.silent := by
  obtain ⟨warnings, hunit⟩ := unitText_uncached hf .source t
  rw [decompileClass, decompileClassUncached]
  cases hpair : s.unitText e .source t files with
  | mk result files' =>
    rw [hpair] at hunit
    obtain rfl : result = _ := hunit
    cases ask (e.unitText .source t) with
    | error a => rfl
    | ok found =>
      cases found with
      | some java => rfl
      | none =>
        simp only [Except.map]
        cases askKnown (.typeNotFound t.text) (e.hierarchy t) <;> rfl

theorem methodSource_uncached (hf : s.Faithful e files) (m : MethodId) (span : Source.Span) :
    (s.methodSource e m span files).1.map SourcePart.excerpt =
      (methodSourceUncached e m span).map SourcePart.excerpt := by
  rw [methodSource, methodSourceUncached]
  cases span.exactText? with
  | some text => rfl
  | none =>
    obtain ⟨warnings, hunit⟩ := unitText_uncached hf .source m.owner
    cases hpair : s.unitText e .source m.owner files with
    | mk result files' =>
      rw [hpair] at hunit
      obtain rfl : result = _ := hunit
      cases ask (e.unitText .source m.owner) with
      | error a => rfl
      | ok found => cases found <;> rfl

/-- The warnings of a unit are not looked at. -/
theorem disassemblyOf_text (m : MethodId) (text : Option String) (warnings : List String) :
    (disassemblyOf m ⟨text, warnings⟩).text = (disassemblyOf m ⟨text, []⟩).text := by
  cases text with
  | none => rfl
  | some unit =>
    simp only [disassemblyOf]
    split <;> rfl

theorem silent_methodAnswer (m : MethodId) (span : Source.Span) {source source' : SourcePart}
    {unit unit' : Fetched} (hsource : source.excerpt = source'.excerpt)
    (hunit : unit.text = unit'.text) :
    (s.methodAnswer m span source unit).silent = (s.methodAnswer m span source' unit').silent := by
  simp only [methodAnswer, Output.warned, Output.silent, hsource, hunit]

theorem decompileMethod_uncached (hf : s.Faithful e files) (m : MethodId) :
    (s.decompileMethod e m files).1.map Output.silent =
      (s.decompileMethodUncached e m).map Output.silent := by
  rw [decompileMethod, decompileMethodUncached]
  cases askKnown (.methodNotFound m.text) (e.memberSpan m) with
  | error a => rfl
  | ok span =>
    have hsource := methodSource_uncached hf m span
    have hstores := s.stores_methodSource e m span files
    cases hpair : s.methodSource e m span files with
    | mk result files₁ =>
      rw [hpair] at hsource hstores
      rcases cases_of_map_eq hsource with ⟨a, rfl, hun⟩ | ⟨source, source', rfl, hun, hview⟩
      · simp only [hpair, hun]
      · obtain ⟨warnings, hunit⟩ := unitText_uncached (hf.stores hstores) .disasm m.owner
        cases hpair' : s.unitText e .disasm m.owner files₁ with
        | mk result files₂ =>
          rw [hpair'] at hunit
          obtain rfl : result = _ := hunit
          simp only [hpair, hun, hpair']
          cases ask (e.unitText .disasm m.owner) with
          | error a => rfl
          | ok found =>
            exact congrArg Except.ok
              (silent_methodAnswer m span hview (disassemblyOf_text m found warnings))

theorem scanType_uncached (hf : s.Faithful e files) (q : StringSearch) (t : TypeId) :
    (q.scanType s e t files).1.map StringSearch.Findings.hits =
      (q.scanTypeUncached e t).map StringSearch.Findings.hits := by
  obtain ⟨warnings, hunit⟩ := unitText_uncached hf .source t
  rw [StringSearch.scanType, StringSearch.scanTypeUncached]
  cases hpair : s.unitText e .source t files with
  | mk result files' =>
    rw [hpair] at hunit
    obtain rfl : result = _ := hunit
    cases ask (e.unitText .source t) with
    | error a => cases a <;> rfl
    | ok found =>
      cases found with
      | none => rfl
      | some unit =>
        simp only [Except.map]
        cases StringSearch.attribution e t unit <;> rfl

theorem scanTypes_uncached (hf : s.Faithful e files) (q : StringSearch) (ts : List TypeId) :
    (q.scanTypes s e ts files).1.map StringSearch.Findings.hits =
      (q.scanTypesUncached e ts).map StringSearch.Findings.hits := by
  induction ts generalizing files with
  | nil => rfl
  | cons t ts ih =>
    have hfirst := scanType_uncached hf q t
    have hstores := stores_scanType q s e t files
    rw [StringSearch.scanTypes, StringSearch.scanTypesUncached]
    cases hpair : q.scanType s e t files with
    | mk result files₁ =>
      rw [hpair] at hfirst hstores
      rcases cases_of_map_eq hfirst with ⟨a, rfl, hun⟩ | ⟨found, found', rfl, hun, hview⟩
      · simp only [hun]
      · have hrest := ih (hf.stores hstores)
        simp only [hun]
        cases hpair' : q.scanTypes s e ts files₁ with
        | mk result files₂ =>
          rw [hpair'] at hrest
          rcases cases_of_map_eq hrest with ⟨a, rfl, hun'⟩ | ⟨rest, rest', rfl, hun', hview'⟩
          · simp only [hun']
          · simp only [hun', Except.map, StringSearch.Findings.append, hview, hview']

theorem searchStrings_uncached (hf : s.Faithful e files) (q : StringSearch) :
    (s.searchStrings e q files).1.map Output.silent =
      (s.searchStringsUncached e q).map Output.silent := by
  rw [searchStrings, searchStringsUncached]
  cases ask e.types with
  | error a => rfl
  | ok types =>
    have hscan := scanTypes_uncached hf q (StringSearch.searchOrder types)
    simp only
    cases hpair : q.scanTypes s e (StringSearch.searchOrder types) files with
    | mk result files' =>
      rw [hpair] at hscan
      rcases cases_of_map_eq hscan with ⟨a, rfl, hun⟩ | ⟨found, found', rfl, hun, hview⟩
      · simp only [hun]
      · simp only [hun, Except.map, StringSearch.answer, Output.silent, hview]

/-! ## All requests -/

/-- **The cache changes nothing but warnings**: not the answer to any request, and not the aliases
after it. -/
theorem runOn_uncached (hf : s.Faithful e files) (r : Request) :
    (s.runOn e files r).answer.map Output.silent = (s.runOnUncached e r).1.map Output.silent ∧
      (s.runOn e files r).aliases = (s.runOnUncached e r).2 := by
  cases r with
  | decompileClass t => exact ⟨decompileClass_uncached hf t, rfl⟩
  | decompileMethod m => exact ⟨decompileMethod_uncached hf m, rfl⟩
  | searchStrings q => exact ⟨searchStrings_uncached hf q, rfl⟩
  | _ => exact ⟨rfl, rfl⟩

theorem run_uncached (hf : ∀ e, s.engine = some e → s.Faithful e files) (r : Request) :
    (s.run files r).1.map Output.silent = (s.runUncached r).1.map Output.silent ∧
      (s.run files r).2.1 = (s.runUncached r).2 := by
  cases he : s.engine with
  | none =>
    rw [run, runUncached, he]
    exact ⟨rfl, rfl⟩
  | some e =>
    obtain ⟨hanswer, haliases⟩ := runOn_uncached (hf e he) r
    rw [run_of_engine he, runUncached_of_engine he]
    refine ⟨?_, by rw [haliases]⟩
    rcases cases_of_map_eq hanswer with ⟨a, hcached, hun⟩ | ⟨out, out', hcached, hun, hview⟩
    · rw [hcached, hun]
    · rw [hcached, hun]
      exact congrArg Except.ok hview

end Session
end DexQuery
