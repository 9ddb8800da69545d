import DexQuery.Engine.Snapshot
import DexQuery.Proofs.Answer.Grouping
import DexQuery.Proofs.Session.Findings
import DexQuery.Proofs.Session.Overlay

/-!
# Searching an export

What a search for strings in an export has to find is read off the export (`Artifact.hits`): the
types in the order of the bytes of their raw names, of each the literals of its source that the
search takes, in their order, and for each of these the first declared method whose text holds it.
The engine of the export says just that (`Artifact.hits_engine`), so that a session finds these
hits, with the unit texts that it gets at the beginning of the search, and answers with their values
and places (`Session.run_searchStrings`).
-/

namespace DexQuery

/-! ## What there is to find -/

namespace Export.Artifact

/-- The byte range of a method in the source of its type, where it can be located. -/
def range? (a : Artifact) (unit : String) (m : MethodId) : Option (Nat × Nat) :=
  ((a.method? m).map (·.span)).bind (StringSearch.memberRange? unit)

/-- The methods of a type in the order of their declarations. -/
def methodIds (a : Artifact) (t : TypeId) : List MethodId :=
  ((a.entry? t.raw).map fun e => e.methods.map fun m => m.model.id t).getD []

/-- The method that byte `n` of the source of a type belongs to: the first one declared whose range
holds it. -/
def methodAt? (a : Artifact) (t : TypeId) (unit : String) (n : Nat) : Option String :=
  ((a.methodIds t).find? fun m =>
    (a.range? unit m).any fun r => decide (r.1 ≤ n) && decide (n < r.2)).map (·.text)

/-- The literals in the source of a type whose values are taken, in source order. -/
def hitsIn (a : Artifact) (accepts : String → Bool) (t : TypeId) (unit : String) : List Hit :=
  ((Source.literals unit).filter fun l => accepts l.value).map fun l =>
    ⟨l.value, t.text, a.methodAt? t unit l.offset⟩

/-- The raw names of all types in the order of their bytes, those that repeat included. -/
def rawNames (a : Artifact) : List String :=
  (a.types.map (·.summary.rawName)).mergeSort fun x y => decide (Text.bytes x ≤ Text.bytes y)

/-- The literals of all types whose values are taken, where `unit` gives the sources. -/
def hits (a : Artifact) (unit : TypeId → Option String) (accepts : String → Bool) : List Hit :=
  a.rawNames.flatMap fun name =>
    ((unit ⟨name⟩).map fun text => a.hitsIn accepts ⟨name⟩ text).getD []

end Export.Artifact

/-! ## What the engine says -/

namespace Export.Artifact

variable {a : Artifact}

/-- An export answers every question. -/
theorem calmAt_engine (t : TypeId) : a.engine.CalmAt t where
  source _ h := nomatch h
  methods _ h := nomatch h
  spans _ _ _ h := nomatch h

theorem methodIds_engine (t : TypeId) : a.engine.methodIds t = a.methodIds t := by
  have hmethods : a.engine.methods t =
      .ok ((a.entry? t.raw).map fun e => e.methods.map (·.model)) := rfl
  rw [Engine.methodIds, hmethods, methodIds]
  cases a.entry? t.raw with
  | none => rfl
  | some e => simp [Except.toOption]

theorem attributionError?_engine (t : TypeId) : a.engine.attributionError? t = none :=
  List.findSome?_eq_none_iff.2 fun _ _ => rfl

theorem hitsIn_engine (accepts : String → Bool) (t : TypeId) (unit : String) :
    a.engine.hitsIn accepts t unit = a.hitsIn accepts t unit := by
  have hmethodAt : ∀ n, a.engine.methodAt? t unit n = a.methodAt? t unit n := by
    intro n
    rw [Engine.methodAt?, attributionError?_engine, methodIds_engine]
    rfl
  simp only [Engine.hitsIn, hitsIn, hmethodAt]

/-- What there is to find is what the engine says. -/
theorem hits_engine (unit : TypeId → Option String) (accepts : String → Bool) :
    a.engine.hits unit accepts (a.rawNames.map TypeId.mk) = a.hits unit accepts := by
  rw [Engine.hits, List.flatMap_map, hits]
  congr 1
  funext name
  congr 2
  funext text
  exact hitsIn_engine accepts ⟨name⟩ text

end Export.Artifact

/-! ## The search -/

namespace Session

open StringSearch

variable {a : Export.Artifact}

theorem searchOrder_eq (a : Export.Artifact) :
    searchOrder (a.types.map (·.summary)) = a.rawNames.map TypeId.mk := by
  have horder : ∀ t ∈ a.types.map (·.summary), ∀ u ∈ a.types.map (·.summary),
      decide (t.rawName ≤ u.rawName) =
        decide (Text.bytes t.rawName ≤ Text.bytes u.rawName) := by
    intro t _ u _
    simp only [Text.bytes_le_iff]
  have hnames : a.types.map (·.summary.rawName) = (a.types.map (·.summary)).map (·.rawName) := by
    rw [List.map_map]
    rfl
  have hsort := List.map_mergeSort (f := fun t : TypeSummary => t.rawName)
    (s := fun x y => decide (Text.bytes x ≤ Text.bytes y)) horder
  rw [searchOrder, Export.Artifact.rawNames, hnames, ← hsort, List.map_map]
  rfl

/-- The answer to a search is made of what there is to find. -/
theorem searchStrings_eq (a : Export.Artifact) (s : Session) (files : Files.Tree)
    (q : StringSearch) :
    ∃ warnings, (s.searchStrings a.engine q files).1 =
      .ok (q.answer s ⟨a.hits (s.unit? a.engine .source files) q.accepts, warnings⟩) := by
  rcases s.searchStrings_cases a.engine q files with
    ⟨-, hcalm⟩ | ⟨_, found, htypes, hfound, hhits, -⟩
  · obtain ⟨t, -, ht⟩ := hcalm _ rfl
    exact absurd (a.calmAt_engine t) ht
  · obtain rfl := Except.ok.inj htypes
    rw [searchOrder_eq, Export.Artifact.hits_engine] at hhits
    exact ⟨found.warnings, by rw [hfound, ← hhits]⟩

/-- An output reports hits up to a limit. It says how many different values they have, lists as many
of these as the limit lets through, each with its places, and says whether there are more. -/
structure Reports (limit : Nat) (hits : List Hit) (out : Output) : Prop where
  total : out.data.member? "total_count" = some (.nat (values hits).length)
  found : out.data.member? "matches" = some (.listOf (fun v => matchEntry (v, places hits v))
    ((values hits).take (min limit (values hits).length)))
  truncated : out.truncated = true ↔ limit < (values hits).length
  complete : ∀ v, v ∈ values hits ↔ v ∈ hits.map (·.value)
  ascending : (values hits).Pairwise fun v w => Text.bytes v < Text.bytes w
  placed : ∀ v ∈ values hits, places hits v ≠ [] ∧ (places hits v).Nodup ∧
    ∀ p, p ∈ places hits v ↔ ⟨v, p⟩ ∈ hits

theorem reports_answer (q : StringSearch) (s : Session) (f : Findings) :
    Reports q.limit f.hits (q.answer s f) := by
  have hkeys : List.Nodup ["session_id", "provenance", "query", "is_regex", "matches",
      "total_count"] := by decide
  have hlength : (group f.hits).length = (values f.hits).length := by
    rw [group_eq, List.length_map]
  have hlist : Json.listOf matchEntry ((group f.hits).take q.limit) =
      .listOf (fun v => matchEntry (v, places f.hits v))
        ((values f.hits).take (min q.limit (values f.hits).length)) := by
    rw [group_eq, ← List.map_take, ← List.take_eq_take_min, Json.listOf, List.map_map]
    rfl
  refine ⟨?_, ?_, ?_, fun _ => mem_values, values_ascending _, fun v hv => ?_⟩
  · rw [← hlength]
    exact Keyed.get?_ofList_of_mem hkeys (by simp)
  · rw [← hlist]
    exact Keyed.get?_ofList_of_mem hkeys (by simp)
  · rw [← hlength]
    exact decide_eq_true_iff
  · exact ⟨places_ne_nil hv, places_nodup _ v, fun _ => mem_places⟩

/-- A search that succeeds reports what there is to find in the types that the engine lists. -/
theorem reports_of_run {s : Session} {e : Engine} {files : Files.Tree} {q : StringSearch}
    {out : Output} (hengine : s.engine = some e)
    (hrun : (s.run files (.searchStrings q)).1 = .ok out) :
    ∃ types, e.types = .ok types ∧ Reports q.limit
      (e.hits (s.unit? e .source files) q.accepts (searchOrder types)) out := by
  rw [run_of_engine hengine] at hrun
  have hanswer : (s.searchStrings e q files).1 = .ok out := mapError_eq_ok_iff.1 hrun
  rcases s.searchStrings_cases e q files with
    ⟨⟨a, ha⟩, -⟩ | ⟨types, found, htypes, hfound, hhits, -⟩
  · rw [ha] at hanswer
    cases hanswer
  · rw [hfound] at hanswer
    obtain rfl := Except.ok.inj hanswer
    exact ⟨types, htypes, hhits ▸ reports_answer q s found⟩

/-- **A search is exact.** A session with an export reports what there is to find in the unit texts
that it gets; these are the sources in the export if the cache has nothing else. -/
theorem run_searchStrings (a : Export.Artifact) {s : Session} (h : s.engine = some a.engine)
    (files : Files.Tree) (q : StringSearch) :
    (∃ out, (s.run files (.searchStrings q)).1 = .ok out ∧
      Reports q.limit (a.hits (s.unit? a.engine .source files) q.accepts) out) ∧
      (s.Faithful a.engine files → ∀ t,
        s.unit? a.engine .source files t = (a.entry? t.raw).bind (·.source)) := by
  constructor
  · obtain ⟨warnings, hanswer⟩ := searchStrings_eq a s files q
    refine ⟨_, ?_, reports_answer q s ⟨_, warnings⟩⟩
    rw [run_of_engine h]
    exact congrArg (Except.mapError Abort.failure) hanswer
  · exact fun hf t => hf.unit?_eq .source t

/-! ### A sample -/

/-- A type of an export with a source and a method, and nothing else. -/
def sampleEntry (rawName source : String) (span : Source.Span) : Export.Entry where
  summary := ⟨rawName, .classType, []⟩
  hierarchy := ⟨none, [], [], [], none, []⟩
  source := some source
  disassembly := none
  methods := [⟨⟨"m", [], "V", [], [], [], none⟩, span, [], [], [], [], ⟨[], none⟩⟩]
  fields := []
  usedBy := []
  dependencies := []
  annotations := []

/-- An export whose types are not in the order of their names. -/
def sampleArtifact : Export.Artifact :=
  ⟨"1", "dex", [sampleEntry "p/B" "class B \x7b String s = \"b\"; \x7d" ⟨none, none⟩,
    sampleEntry "p/A" "class A \x7b void m() \x7b f(\"b\" + \"a\" + \"b\"); \x7d \x7d"
      ⟨none, some 10⟩],
    [], none, 0, 0⟩

theorem rawNames_sampleArtifact : sampleArtifact.rawNames = ["p/A", "p/B"] := by
  have hnot : decide (Text.bytes "p/B" ≤ Text.bytes "p/A") = false := by decide +kernel
  simp only [Export.Artifact.rawNames, sampleArtifact, sampleEntry, List.map_cons, List.map_nil]
  rw [List.mergeSort]
  simp [List.MergeSort.Internal.splitInTwo, hnot]

/-- A session with that export. -/
def sampleSession : Session where
  id := "x"
  artifactPath := "/a"
  artifactHash := "0"
  inputType := "dex"
  classCount := 2
  settings := .default
  backend := Export.backendName
  engineVersion := "1"
  cacheKey := "k"
  cache := ⟨"/c", ["c"]⟩
  created := 0
  lastAccessed := 0
  status := .active
  aliases := .fresh
  engine := some sampleArtifact.engine

/-- A search for everything that gives one value. -/
def sampleSearch : StringSearch := ⟨"", false, 1, fun _ => true⟩

/-- The value that comes first stands in a method, the other one there and in no method. -/
theorem run_searchStrings_sample :
    (∃ out, (sampleSession.run .empty (.searchStrings sampleSearch)).1 = .ok out ∧
      Reports 1 (sampleArtifact.hits (sampleSession.unit? sampleArtifact.engine .source .empty)
        fun _ => true) out) ∧
      sampleArtifact.hits (sampleSession.unit? sampleArtifact.engine .source .empty)
        (fun _ => true) =
        [⟨"b", "Lp/A;", some "Lp/A;->m()V"⟩, ⟨"a", "Lp/A;", some "Lp/A;->m()V"⟩,
          ⟨"b", "Lp/A;", some "Lp/A;->m()V"⟩, ⟨"b", "Lp/B;", none⟩] := by
  refine ⟨(run_searchStrings sampleArtifact rfl .empty sampleSearch).1, ?_⟩
  rw [Export.Artifact.hits, rawNames_sampleArtifact]
  decide +kernel

end Session
end DexQuery
