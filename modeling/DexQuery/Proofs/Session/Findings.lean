import DexQuery.Proofs.Session.UnitText

/-!
# What a search finds

A search asks the engine for the source of each type, for its methods, and where each of these lies
in the source. An error in one of these replies takes from the search what hangs on it and nothing
else, and is told by one warning; only a panic ends the search. So what is found and what is told
about errors can be read off the engine, type by type (`Engine.hits`, `Session.note?`), in the unit
texts that the session gets when the search begins (`StringSearch.scanTypes_cases`): getting texts
for one type changes none that is got for another.
-/

namespace DexQuery

/-- The causes of the error that a reply is, if it is one and no panic. -/
def errorOf? {α : Type} : Reply α → Option (List String)
  | .error (.error causes) => some causes
  | _ => none

/-! ## What there is to find -/

namespace Engine

/-- The methods of a type in the order of their declarations, none if they cannot be found out. -/
def methodIds (e : Engine) (t : TypeId) : List MethodId :=
  ((e.methods t).toOption.join.getD []).map fun m => m.id t

/-- The causes of the first error that is met when the methods of a type are located. -/
def attributionError? (e : Engine) (t : TypeId) : Option (List String) :=
  (errorOf? (e.methods t)).or ((e.methodIds t).findSome? fun m => errorOf? (e.memberSpan m))

/-- The byte range of a method in the source of its type, where it can be located. -/
def range? (e : Engine) (unit : String) (m : MethodId) : Option (Nat × Nat) :=
  (e.memberSpan m).toOption.join.bind (StringSearch.memberRange? unit)

/-- The method that byte `n` of the source of a type belongs to: the first one declared whose range
holds it. Where the methods of a type cannot all be located it belongs to none. -/
def methodAt? (e : Engine) (t : TypeId) (unit : String) (n : Nat) : Option String :=
  match e.attributionError? t with
  | some _ => none
  | none =>
    ((e.methodIds t).find? fun m =>
      (e.range? unit m).any fun r => decide (r.1 ≤ n) && decide (n < r.2)).map (·.text)

/-- The literals in the source of a type whose values are taken, in source order. -/
def hitsIn (e : Engine) (accepts : String → Bool) (t : TypeId) (unit : String) : List Hit :=
  ((Source.literals unit).filter fun l => accepts l.value).map fun l =>
    ⟨l.value, t.text, e.methodAt? t unit l.offset⟩

/-- The literals of types whose values are taken, where `unit` gives the sources. -/
def hits (e : Engine) (unit : TypeId → Option String) (accepts : String → Bool)
    (ts : List TypeId) : List Hit :=
  ts.flatMap fun t => ((unit t).map (e.hitsIn accepts t)).getD []

/-- No reply about the type that a search asks for is a panic. -/
structure CalmAt (e : Engine) (t : TypeId) : Prop where
  source : ∀ message, e.unitSource t ≠ .error (.panic message)
  methods : ∀ message, e.methods t ≠ .error (.panic message)
  spans : ∀ m ∈ e.methodIds t, ∀ message, e.memberSpan m ≠ .error (.panic message)

end Engine

/-! ## What is told about errors -/

/-- A warning about a type. -/
def warn (what : String) (t : TypeId) (why : String) : String := what ++ t.text ++ ": " ++ why

/-- The warning about a type whose source cannot be got. -/
def skipped (t : TypeId) (causes : List String) : String :=
  warn "skipped " t (Failure.engineFailed (Fault.chain causes)).message

/-- The warning about a type whose methods cannot be located. -/
def unattributed (t : TypeId) (causes : List String) : String :=
  warn "method attribution unavailable for " t (Fault.chain causes)

/-- What is told about errors at a type: that it is skipped, if its source is not in the cache and
cannot be got, or that the methods of a source that has been got cannot be located. -/
def Session.note? (s : Session) (e : Engine) (files : Files.Tree) (t : TypeId) : Option String :=
  match s.cache.get files s.cacheKey .source t.raw, errorOf? (e.unitSource t) with
  | none, some causes => some (skipped t causes)
  | _, _ =>
    (s.unit? e .source files t).bind fun _ => (e.attributionError? t).map (unattributed t)

/-- Whether a warning is one about the cache. -/
def isCacheWarning (warning : String) : Bool :=
  "cache write failed for ".toList.isPrefixOf warning.toList

/-- The warnings that are not about the cache. -/
def besidesCache (warnings : List String) : List String :=
  warnings.filter fun w => !isCacheWarning w

theorem besidesCache_append (ws ws' : List String) :
    besidesCache (ws ++ ws') = besidesCache ws ++ besidesCache ws' := List.filter_append ..

theorem isCacheWarning_warn (t : TypeId) (why : String) :
    isCacheWarning (warn "cache write failed for " t why) = true := by
  rw [isCacheWarning, warn, String.append_assoc, String.append_assoc, String.toList_append,
    List.isPrefixOf_iff_prefix]
  exact List.prefix_append ..

/-- A warning that begins otherwise is not about the cache. -/
theorem isCacheWarning_warn_of_head? {what : String} {c : Char} (hwhat : what.toList.head? = some c)
    (hc : c ≠ 'c') (t : TypeId) (why : String) : isCacheWarning (warn what t why) = false := by
  rw [isCacheWarning, warn, String.append_assoc, String.append_assoc, String.toList_append,
    Bool.eq_false_iff, ne_eq, List.isPrefixOf_iff_prefix]
  rintro ⟨rest, hrest⟩
  have hhead := congrArg List.head? hrest
  rw [List.head?_append, List.head?_append, hwhat] at hhead
  exact hc (Option.some.inj hhead).symm

theorem isCacheWarning_skipped (t : TypeId) (causes : List String) :
    isCacheWarning (skipped t causes) = false :=
  isCacheWarning_warn_of_head? (c := 's') (by decide +kernel) (by decide) _ _

theorem isCacheWarning_unattributed (t : TypeId) (causes : List String) :
    isCacheWarning (unattributed t causes) = false :=
  isCacheWarning_warn_of_head? (c := 'm') (by decide +kernel) (by decide) _ _

theorem Session.KeepWarnings.besidesCache {s : Session} {b : Bucket} {t : TypeId}
    {files : Files.Tree} {ws : List String} (h : s.KeepWarnings b t files ws) :
    besidesCache ws = [] := by
  cases h with
  | none => rfl
  | @failed _ f _ =>
    have hwarn := isCacheWarning_warn t f.message
    rw [warn] at hwarn
    rw [DexQuery.besidesCache, List.filter_singleton, hwarn]
    rfl

/-- What is told about errors is not about the cache. -/
theorem Session.besidesCache_note? (s : Session) (e : Engine) (files : Files.Tree) (t : TypeId) :
    besidesCache (s.note? e files t).toList = (s.note? e files t).toList := by
  rw [besidesCache, List.filter_eq_self]
  intro w hw
  rw [Option.mem_toList, note?] at hw
  split at hw
  · obtain rfl := Option.some.inj hw
    rw [isCacheWarning_skipped]
    rfl
  · obtain ⟨_, -, hw⟩ := Option.bind_eq_some_iff.1 hw
    obtain ⟨causes, -, rfl⟩ := Option.map_eq_some_iff.1 hw
    rw [isCacheWarning_unattributed]
    rfl

/-- What is told about errors at a type depends on the text that is got for it. -/
theorem Session.note?_eq (s : Session) (e : Engine) (files : Files.Tree) (t : TypeId) :
    s.note? e files t =
      match s.unit? e .source files t with
      | some _ => (e.attributionError? t).map (unattributed t)
      | none => (errorOf? (e.unitSource t)).map (skipped t) := by
  rw [note?]
  cases hget : s.cache.get files s.cacheKey .source t.raw with
  | some text => rw [unit?_of_cached hget]; rfl
  | none =>
    rw [unit?_of_not_cached hget, Engine.unitText]
    cases e.unitSource t with
    | ok own => cases own <;> rfl
    | error fault => cases fault <;> rfl

theorem Session.note?_congr {s : Session} {e : Engine} {files files' : Files.Tree} {t : TypeId}
    (h : s.unit? e .source files' t = s.unit? e .source files t) :
    s.note? e files' t = s.note? e files t := by
  rw [note?_eq, note?_eq, h]

/-! ## One type -/

namespace StringSearch

/-- The ranges of those methods that can be located. -/
def located (e : Engine) (unit : String) (ms : List MethodId) : List MethodRange :=
  ms.filterMap fun m => (e.range? unit m).map fun r => ⟨r.1, r.2, m.text⟩

/-- Methods are located until a panic or an error is met. -/
theorem rangesOf_cases (e : Engine) (t : TypeId) (unit : String) (ms : List MethodModel) :
    (∃ m ∈ ms, ∃ message, e.memberSpan (m.id t) = .error (.panic message) ∧
      rangesOf e t unit ms = .error (.panic message)) ∨
    rangesOf e t unit ms =
      match ms.findSome? fun m => errorOf? (e.memberSpan (m.id t)) with
      | some causes => .error (.error causes)
      | none => .ok (located e unit (ms.map (·.id t))) := by
  induction ms with
  | nil => exact .inr rfl
  | cons m ms ih =>
    rw [rangesOf, List.findSome?_cons]
    cases hspan : e.memberSpan (m.id t) with
    | error fault =>
      cases fault with
      | error causes => exact .inr rfl
      | panic message => exact .inl ⟨m, List.mem_cons_self, message, hspan, rfl⟩
    | ok span =>
      rcases ih with ⟨m', hm', message, hpanic, hrest⟩ | hrest
      · rw [hrest]
        exact .inl ⟨m', List.mem_cons_of_mem _ hm', message, hpanic, rfl⟩
      · right
        have hok : errorOf? (Except.ok span : Reply (Option Source.Span)) = none := rfl
        rw [hrest, hok]
        cases ms.findSome? fun m => errorOf? (e.memberSpan (m.id t)) with
        | some causes => rfl
        | none =>
          simp only [located, List.map_cons, List.filterMap_cons, Engine.range?, hspan,
            Except.toOption, Option.join_some]
          cases span.bind (memberRange? unit) <;> rfl

/-- The first range that holds a byte is that of the first method whose range holds it. -/
theorem holder?_located (e : Engine) (unit : String) (ms : List MethodId) (n : Nat) :
    holder? (located e unit ms) n = (ms.find? fun m =>
      (e.range? unit m).any fun r => decide (r.1 ≤ n) && decide (n < r.2)).map (·.text) := by
  have hcovers : (fun m : MethodId => ((e.range? unit m).map fun r =>
      (⟨r.1, r.2, m.text⟩ : MethodRange)).any fun r => r.covers n) =
        fun m => (e.range? unit m).any fun r => decide (r.1 ≤ n) && decide (n < r.2) := by
    funext m
    cases e.range? unit m <;> rfl
  rw [holder?, located, List.find?_filterMap, hcovers]
  cases hfind : ms.find? fun m =>
      (e.range? unit m).any fun r => decide (r.1 ≤ n) && decide (n < r.2) with
  | none => rfl
  | some m =>
    have hm := List.find?_some hfind
    cases hr : e.range? unit m with
    | none =>
      rw [hr] at hm
      cases hm
    | some r => simp only [Option.bind_some, hr, Option.map_some]

/-- Only a panic breaks off the attribution of literals; after an error they belong to no method. -/
theorem attribution_cases (e : Engine) (t : TypeId) (unit : String) :
    ((∃ a, attribution e t unit = .error a) ∧ ¬ e.CalmAt t) ∨
    ∃ ranges, attribution e t unit =
        .ok (ranges, ((e.attributionError? t).map (unattributed t)).toList) ∧
      ∀ n, holder? ranges n = e.methodAt? t unit n := by
  have hnone : ∀ n, holder? [] n = none := fun _ => rfl
  simp only [attribution, methodRanges, Engine.attributionError?, Engine.methodAt?,
    Engine.methodIds]
  cases hmethods : e.methods t with
  | error fault =>
    cases fault with
    | error causes => exact .inr ⟨[], rfl, hnone⟩
    | panic message => exact .inl ⟨⟨_, rfl⟩, fun hcalm => hcalm.methods message hmethods⟩
  | ok methods =>
    rcases rangesOf_cases e t unit (methods.getD []) with
      ⟨m, hm, message, hpanic, hranges⟩ | hranges
    · refine .inl ⟨⟨.panicked message, by simp only [hranges]⟩, fun hcalm => ?_⟩
      refine hcalm.spans (m.id t) (List.mem_map.2 ⟨m, ?_, rfl⟩) message hpanic
      simpa [hmethods, Except.toOption] using hm
    · right
      have hok : errorOf? (Except.ok methods : Reply (Option (List MethodModel))) = none := rfl
      simp only [hranges, hok, Option.none_or, Except.toOption, Option.join_some,
        List.findSome?_map, Function.comp_def]
      cases (methods.getD []).findSome? fun m => errorOf? (e.memberSpan (m.id t)) with
      | some causes => exact ⟨[], rfl, hnone⟩
      | none => exact ⟨_, rfl, fun n => holder?_located e unit _ n⟩

/-- What a type adds to what has been found, if no panic is met. -/
theorem scanType_cases (q : StringSearch) (s : Session) (e : Engine) (t : TypeId)
    (files : Files.Tree) :
    ((∃ a, (q.scanType s e t files).1 = .error a) ∧ ¬ e.CalmAt t) ∨
    ∃ kept, s.KeepWarnings .source t files kept ∧ q.scanType s e t files =
      (.ok ⟨((s.unit? e .source files t).map (e.hitsIn q.accepts t)).getD [],
        kept ++ (s.note? e files t).toList⟩, (s.unitText e .source t files).2) := by
  rcases s.unitText_cases e .source t files with
    ⟨fault, hget, hfault, hfailed⟩ | ⟨kept, hkept, hgot⟩
  · have hsource : e.unitSource t = .error fault := hfault
    rw [scanType, s.note?_eq, Session.unit?_of_not_cached hget, hfailed, hfault, hsource]
    cases fault with
    | error causes => exact .inr ⟨[], .none, rfl⟩
    | panic message => exact .inl ⟨⟨_, rfl⟩, fun hcalm => hcalm.source message hsource⟩
  · rw [scanType, hgot, s.note?_eq]
    cases hunit : s.unit? e .source files t with
    | none =>
      have hcalled : errorOf? (e.unitSource t) = none := by
        cases hsource : e.unitSource t with
        | ok own => rfl
        | error fault =>
          rw [Session.unitText_of_fault (Session.not_cached_of_unit? hunit) hsource] at hgot
          cases hgot
      refine .inr ⟨kept, hkept, ?_⟩
      simp only [hcalled, Option.map_none, Option.toList_none, List.append_nil, Option.getD_none]
    | some unit =>
      rcases attribution_cases e t unit with ⟨⟨a, ha⟩, hcalm⟩ | ⟨ranges, hranges, hholder⟩
      · exact .inl ⟨⟨a, by simp only [ha]⟩, hcalm⟩
      · refine .inr ⟨kept, hkept, ?_⟩
        simp only [hranges, hitsIn, hholder]
        rfl

/-! ## All types -/

/-- **A search finds what there is to find, and tells of the errors met**, in the unit texts that
the session gets when it begins; only a panic keeps it from that. -/
theorem scanTypes_cases (q : StringSearch) (s : Session) (e : Engine) (ts : List TypeId)
    (files : Files.Tree) :
    ((∃ a, (q.scanTypes s e ts files).1 = .error a) ∧ ∃ t ∈ ts, ¬ e.CalmAt t) ∨
    ∃ found, (q.scanTypes s e ts files).1 = .ok found ∧
      found.hits = e.hits (s.unit? e .source files) q.accepts ts ∧
      besidesCache found.warnings = ts.filterMap (s.note? e files) := by
  induction ts generalizing files with
  | nil => exact .inr ⟨_, rfl, rfl, rfl⟩
  | cons t ts ih =>
    rcases scanType_cases q s e t files with ⟨⟨a, ha⟩, hcalm⟩ | ⟨kept, hkept, hfirst⟩
    · left
      cases hpair : q.scanType s e t files with
      | mk result files' =>
        rw [hpair] at ha
        obtain rfl : result = _ := ha
        refine ⟨⟨a, ?_⟩, t, List.mem_cons_self, hcalm⟩
        rw [scanTypes, hpair]
    · -- The rest is searched in other files, in which the same texts are got.
      have hunit : s.unit? e .source (s.unitText e .source t files).2 = s.unit? e .source files :=
        funext fun t' => Session.unit?_unitText ..
      have hnote : s.note? e (s.unitText e .source t files).2 = s.note? e files :=
        funext fun t' => Session.note?_congr (congrFun hunit t')
      have hrest := ih (s.unitText e .source t files).2
      rw [hunit, hnote] at hrest
      rw [scanTypes, hfirst]
      simp only
      cases hpair : q.scanTypes s e ts (s.unitText e .source t files).2 with
      | mk result files' =>
        rw [hpair] at hrest
        rcases hrest with ⟨⟨a, rfl⟩, t', ht', hcalm⟩ | ⟨found, rfl, hhits, hwarnings⟩
        · exact .inl ⟨⟨a, rfl⟩, t', List.mem_cons_of_mem _ ht', hcalm⟩
        · refine .inr ⟨_, rfl, ?_, ?_⟩
          · rw [Findings.append, hhits, Engine.hits, Engine.hits, List.flatMap_cons]
          · rw [Findings.append, besidesCache_append, besidesCache_append, hkept.besidesCache,
              Session.besidesCache_note?, hwarnings, List.nil_append, List.filterMap_cons]
            cases s.note? e files t <;> rfl

end StringSearch

/-- A search fails only where the engine does not list the types, or a panic is met. Else its answer
is made of what there is to find. -/
theorem Session.searchStrings_cases (s : Session) (e : Engine) (q : StringSearch)
    (files : Files.Tree) :
    ((∃ a, (s.searchStrings e q files).1 = .error a) ∧ ∀ types, e.types = .ok types →
      ∃ t ∈ StringSearch.searchOrder types, ¬ e.CalmAt t) ∨
    ∃ types found, e.types = .ok types ∧
      (s.searchStrings e q files).1 = .ok (q.answer s found) ∧
      found.hits = e.hits (s.unit? e .source files) q.accepts (StringSearch.searchOrder types) ∧
      besidesCache found.warnings =
        (StringSearch.searchOrder types).filterMap (s.note? e files) := by
  rw [searchStrings]
  cases htypes : e.types with
  | error fault =>
    refine .inl ⟨⟨_, rfl⟩, ?_⟩
    rintro _ ⟨⟩
  | ok types =>
    simp only [ask]
    have hscan := StringSearch.scanTypes_cases q s e (StringSearch.searchOrder types) files
    cases hpair : q.scanTypes s e (StringSearch.searchOrder types) files with
    | mk result files' =>
      rw [hpair] at hscan
      rcases hscan with ⟨⟨a, rfl⟩, hcalm⟩ | ⟨found, rfl, hfound⟩
      · refine .inl ⟨⟨a, rfl⟩, ?_⟩
        rintro _ ⟨⟩
        exact hcalm
      · exact .inr ⟨types, found, rfl, rfl, hfound⟩

end DexQuery
