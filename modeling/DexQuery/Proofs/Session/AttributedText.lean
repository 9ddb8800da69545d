import DexQuery.Proofs.Descriptor.MethodCodec
import DexQuery.Proofs.Session.Attribution
import DexQuery.Proofs.Session.MethodText
import DexQuery.Proofs.Source.Placed

/-!
# Literals that are attributed to a method stand in its text

A search and a question about the text of a method cut the method out of the source alike. So if the
definition of the method does not begin inside a literal or comment, a literal that the search
attributes to the method is whole in the text that is given for it
(`Session.run_decompileMethod_quotes`). A method is known by its descriptor here, which names it
alone as long as the descriptors are well formed (`MethodId.WellFormed.text_inj`).
-/

namespace DexQuery

theorem MethodId.WellFormed.text_inj {m m' : MethodId} (h : m.WellFormed) (h' : m'.WellFormed)
    (htext : m.text = m'.text) : m = m' := by
  have hread := h.read_text
  rw [htext, h'.read_text] at hread
  exact (Except.ok.inj hread).symm

theorem Engine.owner_of_mem_methodIds {e : Engine} {t : TypeId} {m : MethodId}
    (h : m ∈ e.methodIds t) : m.owner = t := by
  obtain ⟨_, -, rfl⟩ := List.mem_map.1 h
  rfl

namespace Session

open StringSearch MethodText

variable {s : Session} {e : Engine} {files : Files.Tree} {t : TypeId} {m : MethodId}

/-! ## Asking for the text -/

theorem methodSource_of_unit? {unit : String} (hunit : s.unit? e .source files m.owner = some unit)
    (span : Source.Span) : ∃ part, s.methodSource e m span files =
      (.ok part, (s.methodSource e m span files).2) := by
  obtain ⟨warnings, hgot⟩ := unitText_of_unit? hunit
  rw [methodSource]
  cases span.exactText? with
  | some text => exact ⟨_, rfl⟩
  | none =>
    rw [hgot]
    exact ⟨_, rfl⟩

/-- A method that the engine knows has an answer about its text where there is a source, unless the
engine fails at the disassembly. -/
theorem decompileMethod_of_unit? {unit : String} {span : Source.Span}
    (hspan : e.memberSpan m = .ok (some span))
    (hunit : s.unit? e .source files m.owner = some unit)
    (hdisassembly : ∀ fault, e.unitDisassembly m.owner ≠ .error fault) :
    ∃ out, (s.decompileMethod e m files).1 = .ok out := by
  obtain ⟨part, hpart⟩ := methodSource_of_unit? hunit span
  rcases s.unitText_cases e .disasm m.owner (s.methodSource e m span files).2 with
    ⟨fault, -, hfault, -⟩ | ⟨kept, -, hgot⟩
  · exact absurd hfault (hdisassembly fault)
  · rw [decompileMethod, hspan]
    simp only [askKnown]
    rw [hpart]
    simp only
    rw [hgot]
    exact ⟨_, rfl⟩

/-- A method that is isolated in the source of its type is answered with what is isolated. -/
theorem data_of_decompileMethod {unit : String} {span : Source.Span} {start : Nat}
    {p : Source.Member} (hspan : e.memberSpan m = .ok (some span)) (hexact : NoExact span)
    (hstart : span.definitionOffset = some start) (hp : Source.member? unit start = some p)
    (hunit : s.unit? e .source files m.owner = some unit) {out : Output}
    (h : (s.decompileMethod e m files).1 = .ok out) :
    out.data.member? "java" = some (.string p.text) ∧
      out.data.member? "strategy" = some (.string "brace_depth") := by
  obtain ⟨span', part, disassembly, hspan', hpart, -, rfl⟩ := decompileMethod_eq_ok h
  obtain rfl := Option.some.inj (Except.ok.inj (hspan.symm.trans hspan'))
  have hexcerpt : part.excerpt = some ⟨p.text, .braceDepth⟩ := by
    rw [(methodSource_eq_ok hpart).1, excerpt?_of_noExact hexact, hunit, Option.map_some,
      Source.excerpt, exactText?_eq_none_iff.2 hexact, hstart, Option.bind_some, hp]
  have hshown : (⟨some p.text, some .braceDepth, (disassemblyOf m disassembly).text⟩ :
      MethodText).ShownBy (s.methodAnswer m span part (disassemblyOf m disassembly)) :=
    shownBy_methodAnswer (by rw [hexcerpt]; rfl) (by rw [hexcerpt]; rfl) rfl
  exact ⟨hshown.java, hshown.strategy⟩

/-! ## Both features -/

/-- A literal of a source is whole in the text that an answer gives for a method, where it stands in
the source, and that text is isolated by matching braces. -/
def QuotedIn (unit : String) (l : Source.Literal) (out : Output) : Prop :=
  out.data.member? "strategy" = some (.string "brace_depth") ∧
    ∃ quoted, Source.Quotes unit l quoted ∧ ∃ before front rest after,
      out.data.member? "java" = some (.string (front ++ quoted ++ rest)) ∧
      unit = before ++ (front ++ quoted ++ rest) ++ after ∧
      before.utf8ByteSize + front.utf8ByteSize = l.offset

/-- What is attributed to a method stands in the member at its definition. -/
theorem exists_member_of_methodAt? {unit : String} {n : Nat}
    (hwell : ∀ m ∈ e.methodIds t, m.WellFormed) (hm : m ∈ e.methodIds t) {span : Source.Span}
    (hspan : e.memberSpan m = .ok (some span)) (hexact : NoExact span)
    (h : e.methodAt? t unit n = some m.text) :
    ∃ start p, span.definitionOffset = some start ∧ Source.member? unit start = some p ∧
      p.start ≤ n ∧ n < p.stop := by
  obtain ⟨m', hm', htext, r, hr, hn⟩ := Engine.exists_of_methodAt? h
  obtain rfl := (hwell m' hm').text_inj (hwell m hm) htext
  have hnone : ∀ span', e.memberSpan m' = .ok (some span') → span'.exactText? = none := by
    intro span' hspan'
    obtain rfl := Option.some.inj (Except.ok.inj (hspan.symm.trans hspan'))
    exact exactText?_eq_none_iff.2 hexact
  obtain ⟨span', start, p, hspan', hstart, hp, rfl⟩ := Engine.member?_of_range? hr hnone
  obtain rfl := Option.some.inj (Except.ok.inj (hspan.symm.trans hspan'))
  exact ⟨start, p, hstart, hp, hn⟩

/-- **A literal that a search attributes to a method is whole in the text of the method.** Where the
definition of the method begins with a token of the source, and the engine does not fail at the
disassembly, asking for the text of the method gives an answer; and any answer has the literal in
it, from its opening quote to its closing one. -/
theorem run_decompileMethod_quotes (hengine : s.engine = some e) {files files' : Files.Tree}
    {q : StringSearch} {out : Output} (hrun : (s.run files (.searchStrings q)).1 = .ok out)
    {unit : String} (hunit : s.unit? e .source files t = some unit)
    (hunit' : s.unit? e .source files' t = some unit)
    (hwell : ∀ m ∈ e.methodIds t, m.WellFormed) (hm : m ∈ e.methodIds t) {span : Source.Span}
    (hspan : e.memberSpan m = .ok (some span)) (hexact : NoExact span) {start : Nat}
    (hstart : span.definitionOffset = some start) {token : Source.Token}
    (htoken : (start, token) ∈ Source.placed 0 (Source.scan unit.toList)) :
    MethodId.read m.text = .ok m ∧ ∃ types, s.Finds e files q types out ∧
      ∀ l ∈ Source.literals unit, e.methodAt? t unit l.offset = some m.text →
        (t ∈ searchOrder types → q.accepts l.value = true → ⟨l.value, t.text, some m.text⟩ ∈
          e.hits (s.unit? e .source files) q.accepts (searchOrder types)) ∧
        ((∀ fault, e.unitDisassembly t ≠ .error fault) →
          ∃ out', (s.run files' (.decompileMethod m)).1 = .ok out') ∧
        ∀ out', (s.run files' (.decompileMethod m)).1 = .ok out' → QuotedIn unit l out' := by
  obtain ⟨types, hfinds⟩ := finds_of_run hengine hrun
  have hanswer : ∀ out', (s.run files' (.decompileMethod m)).1 = .ok out' ↔
      (s.decompileMethod e m files').1 = .ok out' := by
    intro out'
    rw [run_of_engine hengine]
    exact mapError_eq_ok_iff
  obtain rfl := Engine.owner_of_mem_methodIds hm
  refine ⟨(hwell m hm).read_text, types, hfinds, fun l hl hattributed => ⟨?_, ?_, ?_⟩⟩
  · intro ht haccepts
    rw [hfinds.found, ← hattributed]
    exact ⟨m.owner, ht, unit, hunit, l, hl, haccepts, rfl⟩
  · intro hdisassembly
    obtain ⟨out', hout'⟩ := decompileMethod_of_unit? hspan hunit' hdisassembly
    exact ⟨out', (hanswer out').2 hout'⟩
  · intro out' hout'
    obtain ⟨start', p, hstart', hp, hfrom, hto⟩ :=
      exists_member_of_methodAt? hwell hm hspan hexact hattributed
    obtain rfl := Option.some.inj (hstart.symm.trans hstart')
    obtain ⟨hjava, hstrategy⟩ :=
      data_of_decompileMethod hspan hexact hstart hp hunit' ((hanswer out').1 hout')
    obtain ⟨quoted, hquotes, front, rest, htext, hoffset⟩ :=
      Source.exists_quotes hp htoken hl hfrom hto
    obtain ⟨⟨before, after, hstretch, hbefore, -⟩, -, -⟩ := Source.located_of_member? hp
    refine ⟨hstrategy, quoted, hquotes, before, front, rest, after, ?_, ?_, ?_⟩
    · rw [hjava, htext]
    · rw [← htext, ← hstretch]
    · rw [hbefore, hoffset]

/-- The annotated method. -/
def annotatedMethod : MethodId := ⟨⟨"A"⟩, "m", [], "V"⟩

theorem wellFormed_annotatedMethod : annotatedMethod.WellFormed := by
  have hread : (MethodId.read "LA;->m()V").toOption = some annotatedMethod := by decide +kernel
  cases h : MethodId.read "LA;->m()V" with
  | error reason =>
    rw [h] at hread
    cases hread
  | ok m =>
    rw [h] at hread
    obtain rfl := Option.some.inj hread
    exact (MethodId.wellFormed_of_read h).1

/-- The literals of the annotation and of the body are both in the text of the method. -/
theorem run_decompileMethod_quotes_annotated :
    ∃ out out', (annotatedSession.run .empty (.searchStrings sampleSearch)).1 = .ok out ∧
      (annotatedSession.run .empty (.decompileMethod annotatedMethod)).1 = .ok out' ∧
      QuotedIn annotatedSource ⟨15, "x"⟩ out' ∧ QuotedIn annotatedSource ⟨33, "y"⟩ out' := by
  obtain ⟨out, hrun, -⟩ := reports_annotated
  have hunit : annotatedSession.unit? annotatedArtifact.engine .source .empty ⟨"A"⟩ =
      some annotatedSource := by decide +kernel
  have hmem : annotatedMethod ∈ annotatedArtifact.engine.methodIds ⟨"A"⟩ :=
    List.mem_singleton_self _
  have hwell : ∀ m ∈ annotatedArtifact.engine.methodIds ⟨"A"⟩, m.WellFormed := by
    intro m hm
    rw [List.mem_singleton.1 hm]
    exact wellFormed_annotatedMethod
  have htoken : (25, Source.Token.plain 'm') ∈
      Source.placed 0 (Source.scan annotatedSource.toList) := by decide +kernel
  obtain ⟨-, types, -, hquotes⟩ := run_decompileMethod_quotes (s := annotatedSession) rfl hrun hunit
    hunit hwell hmem (memberSpan_annotated hmem) nofun rfl htoken
  obtain ⟨-, hanswered, hx⟩ := hquotes ⟨15, "x"⟩ (by decide +kernel) (by decide +kernel)
  obtain ⟨-, -, hy⟩ := hquotes ⟨33, "y"⟩ (by decide +kernel) (by decide +kernel)
  obtain ⟨out', hout'⟩ := hanswered nofun
  exact ⟨out, out', hrun, hout', hx out' hout', hy out' hout'⟩

end Session
end DexQuery
