import DexQuery.Proofs.Cache.Contents
import DexQuery.Proofs.Keyed
import DexQuery.Proofs.Session.Overlay
import DexQuery.Proofs.Session.StringSearch
import DexQuery.Proofs.Session.UnitText
import DexQuery.Proofs.Source.Disassembly
import DexQuery.Proofs.Source.Member

/-!
# The text of a method, and what is said about it

An answer about the text of a method gives its source and its disassembly. Each is what can be had
(`MethodText.From`): the engine's exact text, or what is cut out of the unit that the session gets,
or the whole unit, or nothing. Whatever falls short of the method's own text is named by a warning,
one for the source and one for the disassembly; besides these there are only warnings about texts
that could not be put into the cache (`MethodText.Disclosed`). `Session.run_decompileMethod` puts
this together: where texts can be put into the cache, silence means that nothing falls short.
-/

namespace DexQuery

/-! ## What an answer is to give -/

/-- The text of a method: its source, how that was found, and its disassembly. -/
structure MethodText where
  java : Option String
  strategy : Option Source.Strategy
  smali : Option String

namespace MethodText

/-- The output gives the text, with null for what there is none of. -/
structure ShownBy (x : MethodText) (out : Output) : Prop where
  java : out.data.member? "java" = some (.optString x.java)
  strategy : out.data.member? "strategy" = some (.optString (x.strategy.map Source.Strategy.word))
  smali : out.data.member? "smali" = some (.optString x.smali)

/-- The engine has no exact text of a member, or an empty one. -/
def NoExact (span : Source.Span) : Prop := ∀ text, span.exact = some text → text = ""

/-- What is cut out of a unit: a stretch of it that holds the definition, or all of it. -/
inductive Cut (unit : String) (span : Source.Span) : String → Source.Strategy → Prop
  | isolated {offset : Nat} {p : Source.Member} (hoffset : span.definitionOffset = some offset)
      (hlocated : Source.Located unit offset p) : Cut unit span p.text .braceDepth
  | whole : Cut unit span unit .fullUnit

/-- The text is the best that can be had of the method called `short`, given what the engine knows
about it and the source and disassembly of its unit. -/
structure From (x : MethodText) (short : String) (span : Source.Span)
    (source disassembly : Option String) : Prop where
  exact : ∀ text, span.exact = some text → text ≠ "" →
    x.java = some text ∧ x.strategy = some .exact
  ofUnit : NoExact span → ∀ unit, source = some unit →
    x.java = some (Source.excerpt unit span).text ∧
      x.strategy = some (Source.excerpt unit span).strategy ∧
        Cut unit span (Source.excerpt unit span).text (Source.excerpt unit span).strategy
  java_none : x.java = none ↔ NoExact span ∧ source = none
  strategy_none : x.strategy = none ↔ NoExact span ∧ source = none
  smali_none : x.smali = none ↔ disassembly = none ∨
    ∃ unit, disassembly = some unit ∧
      ∀ l ∈ Text.lines unit.toList, ¬ Disassembly.Heads short l
  smali : ∀ unit text, disassembly = some unit → Disassembly.method? unit short = some text →
    x.smali = some text

/-- The source is not the method's own text, or there is none. -/
def SourceFallsShort (x : MethodText) : Prop := x.strategy = some .fullUnit ∨ x.java = none

instance (x : MethodText) : Decidable x.SourceFallsShort := inferInstanceAs (Decidable (_ ∨ _))

/-- There is one warning for each of the two that falls short, and besides these there are `kept`
and `kept'`. -/
def Disclosed (x : MethodText) (kept kept' warnings : List String) : Prop :=
  ∃ notes notes', warnings = kept ++ notes ++ (kept' ++ notes') ∧
    notes.length = (if x.SourceFallsShort then 1 else 0) ∧
      notes'.length = if x.smali = none then 1 else 0

/-- Without warnings about the cache, there are none exactly if nothing falls short. -/
theorem Disclosed.eq_nil_iff {x : MethodText} {warnings : List String}
    (h : x.Disclosed [] [] warnings) :
    warnings = [] ↔ ¬ x.SourceFallsShort ∧ x.smali ≠ none := by
  obtain ⟨notes, notes', rfl, hnotes, hnotes'⟩ := h
  rw [List.nil_append, List.nil_append, List.append_eq_nil_iff, ← List.length_eq_zero_iff, hnotes,
    ← List.length_eq_zero_iff, hnotes']
  split_ifs <;> simp [*]

/-- The source does not fall short if it is the engine's exact text or isolated in its unit. -/
theorem From.not_sourceFallsShort_iff {x : MethodText} {short : String} {span : Source.Span}
    {source disassembly : Option String} (h : x.From short span source disassembly) :
    ¬ x.SourceFallsShort ↔ x.strategy = some .exact ∨ x.strategy = some .braceDepth := by
  have hjava : x.java = none ↔ x.strategy = none := h.java_none.trans h.strategy_none.symm
  rw [SourceFallsShort, hjava]
  cases x.strategy with
  | none => simp
  | some strategy => cases strategy <;> simp

/-! ## What can be had -/

/-- The source that can be had of a member. -/
def excerpt? (span : Source.Span) (source : Option String) : Option Source.Excerpt :=
  match span.exactText? with
  | some text => some ⟨text, .exact⟩
  | none => source.map fun unit => Source.excerpt unit span

/-- The text that can be had of the method called `short`. -/
def best (short : String) (span : Source.Span) (source disassembly : Option String) : MethodText :=
  ⟨(excerpt? span source).map (·.text), (excerpt? span source).map (·.strategy),
    disassembly.bind (Disassembly.method? · short)⟩

theorem exactText?_eq_some_iff {span : Source.Span} {text : String} :
    span.exactText? = some text ↔ span.exact = some text ∧ text ≠ "" := by
  rw [Source.Span.exactText?, Option.filter_eq_some_iff, bne_iff_ne]

theorem exactText?_eq_none_iff {span : Source.Span} : span.exactText? = none ↔ NoExact span := by
  rw [Source.Span.exactText?, Option.filter_eq_none_iff]
  simp only [NoExact, bne_iff_ne, ne_eq, not_not]

theorem excerpt?_of_exact {span : Source.Span} {text : String} (h : span.exact = some text)
    (hne : text ≠ "") (source : Option String) : excerpt? span source = some ⟨text, .exact⟩ := by
  rw [excerpt?, exactText?_eq_some_iff.2 ⟨h, hne⟩]

theorem excerpt?_of_noExact {span : Source.Span} (h : NoExact span) (source : Option String) :
    excerpt? span source = source.map fun unit => Source.excerpt unit span := by
  rw [excerpt?, exactText?_eq_none_iff.2 h]

theorem excerpt?_eq_none_iff {span : Source.Span} {source : Option String} :
    excerpt? span source = none ↔ NoExact span ∧ source = none := by
  rw [← exactText?_eq_none_iff, excerpt?]
  cases span.exactText? <;> simp

/-- Without an exact text, a stretch of the unit is cut out or the whole of it is taken. -/
theorem cut_excerpt {span : Source.Span} (h : NoExact span) (unit : String) :
    Cut unit span (Source.excerpt unit span).text (Source.excerpt unit span).strategy := by
  rw [Source.excerpt, exactText?_eq_none_iff.2 h]
  cases hmember : span.definitionOffset.bind (Source.member? unit) with
  | none => exact .whole
  | some p =>
    obtain ⟨offset, hoffset, hp⟩ := Option.bind_eq_some_iff.1 hmember
    exact .isolated hoffset (Source.located_of_member? hp)

theorem from_best (short : String) (span : Source.Span) (source disassembly : Option String) :
    (best short span source disassembly).From short span source disassembly where
  exact text h hne := by
    simp only [best, excerpt?_of_exact h hne, Option.map_some, and_self]
  ofUnit h unit hunit := by
    refine ⟨?_, ?_, cut_excerpt h unit⟩ <;>
    · simp only [best, excerpt?_of_noExact h, hunit, Option.map_some]
  java_none := by
    rw [best, Option.map_eq_none_iff, excerpt?_eq_none_iff]
  strategy_none := by
    rw [best, Option.map_eq_none_iff, excerpt?_eq_none_iff]
  smali_none := by
    rw [best, Option.bind_eq_none_iff]
    cases disassembly with
    | none => simp
    | some unit => simp [Disassembly.method?_eq_none_iff]
  smali unit text hunit htext := by
    rw [best, hunit, Option.bind_some, htext]

/-- The source falls short exactly if it has to be warned about. -/
theorem sourceFallsShort_best {short : String} {span : Source.Span}
    {source disassembly : Option String} :
    (best short span source disassembly).SourceFallsShort ↔
      (excerpt? span source).map (·.strategy) = some .fullUnit ∨ excerpt? span source = none := by
  rw [SourceFallsShort, best, Option.map_eq_none_iff]

end MethodText

namespace Session

variable {s : Session} {e : Engine} {files : Files.Tree}

/-! ## The answer -/

open MethodText

theorem length_warning (found : Source.Excerpt) :
    found.warning.toList.length = if found.strategy = .fullUnit then 1 else 0 := by
  rw [Source.Excerpt.warning]
  split <;> rfl

/-- The source part of an answer: what can be had, with a warning if that falls short. -/
theorem methodSource_eq_ok {m : MethodId} {span : Source.Span} {part : SourcePart}
    (h : (s.methodSource e m span files).1 = .ok part) :
    part.excerpt = excerpt? span (s.unit? e .source files m.owner) ∧
      ∃ kept notes, part.warnings = kept ++ notes ∧ s.KeepWarnings .source m.owner files kept ∧
        notes.length = if part.excerpt.map (·.strategy) = some .fullUnit ∨ part.excerpt = none
          then 1 else 0 := by
  rw [methodSource] at h
  rw [excerpt?]
  cases hexact : span.exactText? with
  | some text =>
    rw [hexact] at h
    obtain rfl := Except.ok.inj h
    exact ⟨rfl, [], [], rfl, .none, by simp⟩
  | none =>
    rw [hexact] at h
    cases hpair : s.unitText e .source m.owner files with
    | mk result files' =>
      rw [hpair] at h
      cases result with
      | error a => cases h
      | ok fetched =>
        obtain rfl := Except.ok.inj h
        obtain ⟨htext, hkept⟩ := unitText_eq_ok (congrArg Prod.fst hpair)
        rw [← htext, SourcePart.ofUnit]
        cases fetched.text with
        | none => exact ⟨rfl, fetched.warnings, [noSource m.owner], rfl, hkept, by simp⟩
        | some unit =>
          refine ⟨rfl, fetched.warnings, _, rfl, hkept, ?_⟩
          rw [length_warning]
          simp

theorem disassemblyOf_eq (m : MethodId) (unit : Fetched) :
    (disassemblyOf m unit).text = unit.text.bind (Disassembly.method? · m.shortText) ∧
      ∃ notes, (disassemblyOf m unit).warnings = unit.warnings ++ notes ∧
        notes.length = if (disassemblyOf m unit).text = none then 1 else 0 := by
  obtain ⟨text, warnings⟩ := unit
  cases text with
  | none => exact ⟨rfl, _, rfl, rfl⟩
  | some text =>
    rw [Option.bind_some]
    rcases Option.eq_none_or_eq_some (Disassembly.method? text m.shortText) with
      hfound | ⟨found, hfound⟩
    · have heq : disassemblyOf m ⟨some text, warnings⟩ =
          ⟨none, warnings ++ [m.shortText ++ " not found in disassembly"]⟩ := by
        simp only [disassemblyOf, hfound]
      rw [heq, hfound]
      exact ⟨rfl, _, rfl, rfl⟩
    · have heq : disassemblyOf m ⟨some text, warnings⟩ = ⟨some found, warnings⟩ := by
        simp only [disassemblyOf, hfound]
      rw [heq, hfound]
      exact ⟨rfl, [], (List.append_nil _).symm, rfl⟩

/-- What has been found out where the question is answered. -/
theorem decompileMethod_eq_ok {m : MethodId} {out : Output}
    (h : (s.decompileMethod e m files).1 = .ok out) : ∃ span part unit,
      e.memberSpan m = .ok (some span) ∧ (s.methodSource e m span files).1 = .ok part ∧
        (s.unitText e .disasm m.owner (s.methodSource e m span files).2).1 = .ok unit ∧
          out = s.methodAnswer m span part (disassemblyOf m unit) := by
  rw [decompileMethod] at h
  cases hspan : e.memberSpan m with
  | error fault =>
    rw [hspan] at h
    cases h
  | ok found =>
    rw [hspan] at h
    cases found with
    | none => cases h
    | some span =>
      simp only [askKnown] at h
      cases hsource : s.methodSource e m span files with
      | mk result files₁ =>
        rw [hsource] at h
        cases result with
        | error a => cases h
        | ok part =>
          simp only at h
          cases hunit : s.unitText e .disasm m.owner files₁ with
          | mk result files₂ =>
            rw [hunit] at h
            cases result with
            | error a => cases h
            | ok unit =>
              exact ⟨span, part, unit, rfl, by rw [hsource], by rw [hsource, hunit],
                (Except.ok.inj h).symm⟩

theorem methodSource_snd (s : Session) (e : Engine) (m : MethodId) (span : Source.Span)
    (files : Files.Tree) : (s.methodSource e m span files).2 = files ∨
      (s.methodSource e m span files).2 = (s.unitText e .source m.owner files).2 := by
  rw [methodSource]
  cases span.exactText? with
  | some text => exact .inl rfl
  | none =>
    cases s.unitText e .source m.owner files with
    | mk result files' => cases result <;> exact .inr rfl

/-- The disassembly that is got after the source is the one from before. -/
theorem unit?_methodSource (s : Session) (e : Engine) (m : MethodId) (span : Source.Span)
    (files : Files.Tree) (b : Bucket) (t : TypeId) :
    s.unit? e b (s.methodSource e m span files).2 t = s.unit? e b files t := by
  rcases methodSource_snd s e m span files with h | h
  · rw [h]
  · rw [h, unit?_unitText]

theorem shownBy_methodAnswer {m : MethodId} {span : Source.Span} {part : SourcePart}
    {disassembly : Fetched} {x : MethodText} (hjava : x.java = part.excerpt.map (·.text))
    (hstrategy : x.strategy = part.excerpt.map (·.strategy)) (hsmali : x.smali = disassembly.text) :
    x.ShownBy (s.methodAnswer m span part disassembly) := by
  have hkeys : List.Nodup ["provenance", "id", "kind", "java", "smali", "strategy", "locations"] :=
    by decide
  refine ⟨?_, ?_, ?_⟩
  · rw [hjava]
    exact Keyed.get?_ofList_of_mem hkeys (by simp)
  · rw [hstrategy, Option.map_map]
    exact Keyed.get?_ofList_of_mem hkeys (by simp [Function.comp_def])
  · rw [hsmali]
    exact Keyed.get?_ofList_of_mem hkeys (by simp)

/-- The cache takes every text for the two units that are asked for, each when it is asked for. -/
def CacheTakes (s : Session) (e : Engine) (m : MethodId) (span : Source.Span) (files : Files.Tree) :
    Prop :=
  (∀ text, (s.cache.put files s.cacheKey .source m.owner.raw text).1 = .ok ()) ∧
    ∀ text, (s.cache.put (s.methodSource e m span files).2 s.cacheKey .disasm m.owner.raw text).1 =
      .ok ()

/-- An output gives the text of a method and tells what falls short in it. -/
def Discloses (s : Session) (files : Files.Tree) (m : MethodId) (out : Output) : Prop :=
  ∃ (e : Engine) (span : Source.Span) (x : MethodText),
    s.engine = some e ∧ e.memberSpan m = .ok (some span) ∧ x.ShownBy out ∧
    x.From m.shortText span (s.unit? e .source files m.owner) (s.unit? e .disasm files m.owner) ∧
    (∃ kept kept', s.KeepWarnings .source m.owner files kept ∧ kept.length ≤ 1 ∧
      s.KeepWarnings .disasm m.owner (s.methodSource e m span files).2 kept' ∧ kept'.length ≤ 1 ∧
        x.Disclosed kept kept' out.warnings) ∧
    (s.CacheTakes e m span files → (out.warnings = [] ↔
      (x.strategy = some .exact ∨ x.strategy = some .braceDepth) ∧ x.smali ≠ none))

/-- **The text of a method never degrades silently.** An answer about it gives the best that can be
had and names whatever falls short, and only that. -/
theorem run_decompileMethod {files : Files.Tree} {m : MethodId} {out : Output}
    (h : (s.run files (.decompileMethod m)).1 = .ok out) : s.Discloses files m out := by
  cases hengine : s.engine with
  | none =>
    rw [run, hengine] at h
    cases h
  | some e =>
    rw [run_of_engine hengine] at h
    have hanswer : (s.decompileMethod e m files).1 = .ok out := mapError_eq_ok_iff.1 h
    obtain ⟨span, part, unit, hspan, hpart, hunit, rfl⟩ := decompileMethod_eq_ok hanswer
    obtain ⟨hexcerpt, kept, notes, hwarned, hkept, hnotes⟩ := methodSource_eq_ok hpart
    obtain ⟨htext, hkept'⟩ := unitText_eq_ok hunit
    obtain ⟨hsmali, notes', hwarned', hnotes'⟩ := disassemblyOf_eq m unit
    rw [unit?_methodSource] at htext
    rw [htext] at hsmali
    let x := best m.shortText span (s.unit? e .source files m.owner)
      (s.unit? e .disasm files m.owner)
    have hfrom : x.From m.shortText span _ _ := from_best ..
    have hdisclosed : x.Disclosed kept unit.warnings
        (s.methodAnswer m span part (disassemblyOf m unit)).warnings := by
      refine ⟨notes, notes', ?_, ?_, ?_⟩
      · rw [← hwarned, ← hwarned']
        rfl
      · simp only [hnotes, hexcerpt, x, sourceFallsShort_best]
      · simp only [hnotes', hsmali, x, best]
    refine ⟨e, span, x, hengine, hspan, ?_, hfrom, ⟨kept, unit.warnings, hkept, hkept.length_le,
      hkept', hkept'.length_le, hdisclosed⟩, ?_⟩
    · exact shownBy_methodAnswer (by rw [hexcerpt]; rfl) (by rw [hexcerpt]; rfl) hsmali.symm
    · intro htakes
      rw [hkept.eq_nil htakes.1, hkept'.eq_nil htakes.2] at hdisclosed
      rw [hdisclosed.eq_nil_iff, hfrom.not_sourceFallsShort_iff]

/-- A method in the sample of an export. -/
def sampleMethod : MethodId := ⟨⟨"p/A"⟩, "m", [], "V"⟩

/-- The method is isolated in the source of its type. There is no disassembly, which is said, and
nothing is said about the cache. -/
theorem run_decompileMethod_sample :
    ∃ out, (sampleSession.run .empty (.decompileMethod sampleMethod)).1 = .ok out ∧
      sampleSession.Discloses .empty sampleMethod out ∧
      sampleSession.CacheTakes sampleArtifact.engine sampleMethod ⟨none, some 10⟩ .empty ∧
      out.warnings = ["no disassembly available for Lp/A;"] := by
  have hwarnings : ((sampleSession.run .empty (.decompileMethod sampleMethod)).1.map
      Output.warnings).toOption = some ["no disassembly available for Lp/A;"] := by decide +kernel
  have hsource : (sampleSession.cache.put .empty "k" .source "p/A" "").1 = .ok () := by
    decide +kernel
  have hdisasm : (sampleSession.cache.put (sampleSession.methodSource sampleArtifact.engine
      sampleMethod ⟨none, some 10⟩ .empty).2 "k" .disasm "p/A" "").1 = .ok () := by
    decide +kernel
  -- Whether a text can be stored depends on its place only.
  have htakes :
      sampleSession.CacheTakes sampleArtifact.engine sampleMethod ⟨none, some 10⟩ .empty :=
    ⟨fun _ => Cache.put_eq_ok_iff.2 (Cache.put_eq_ok_iff.1 hsource),
      fun _ => Cache.put_eq_ok_iff.2 (Cache.put_eq_ok_iff.1 hdisasm)⟩
  cases hrun : (sampleSession.run .empty (.decompileMethod sampleMethod)).1 with
  | error f =>
    rw [hrun] at hwarnings
    cases hwarnings
  | ok out =>
    rw [hrun] at hwarnings
    exact ⟨out, rfl, run_decompileMethod hrun, htakes, Option.some.inj hwarnings⟩

end Session
end DexQuery
