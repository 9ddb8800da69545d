import DexQuery.Proofs.Answer.Failure
import DexQuery.Proofs.Operation.Reading
import DexQuery.Session.Run

/-!
# Faults of the engine

An engine may fail, by an error or by a panic, in each of its replies. What becomes of a fault that
is met while a request is answered is settled here: it breaks the answer off, and the answer carries
it; only a search for strings goes on after an error, and then it names the error by a warning
(`Session.runOn_of_fault`).

Whether a fault is met is not read off the text of the program but off what it does: running a
request asks a question of the engine if the outcome hangs on the reply (`Session.HangsOn`). So no
fault can be passed over without being met.

The proofs compare two engines that reply alike as long as the first does not fail, question by
question (`Engine.Mends`): either the outcome is the same for both or the fault shows in it.
-/

namespace DexQuery

/-! ## Questions to an engine -/

/-- What an engine can be asked. -/
inductive Question where
  | types
  | hierarchy (t : TypeId)
  | methods (t : TypeId)
  | fields (t : TypeId)
  | unitText (b : Bucket) (t : TypeId)
  | memberSpan (m : MethodId)
  | methodUses (m : MethodId)
  | methodUsedBy (m : MethodId)
  | fieldUsedBy (f : FieldId)
  | typeUsedBy (t : TypeId)
  | overrides (m : MethodId)
  | unresolvedCalls (m : MethodId)
  | typeAnnotations (t : TypeId)
  | methodAnnotations (m : MethodId)
  | fieldAnnotations (f : FieldId)
  | dependencies (t : TypeId)
  | resources
  | resourceContent (name : String)
  | manifest
  | diagnostics
deriving DecidableEq

/-- What a reply to the question is about, if it is no fault. -/
def Question.Answer : Question → Type
  | .types => List TypeSummary
  | .hierarchy _ => Option Hierarchy
  | .methods _ => Option (List MethodModel)
  | .fields _ => Option (List FieldModel)
  | .unitText _ _ => Option String
  | .memberSpan _ => Option Source.Span
  | .methodUses _ | .methodUsedBy _ | .fieldUsedBy _ | .typeUsedBy _ | .overrides _ =>
    Option (List Reference)
  | .unresolvedCalls _ => Option (List UnresolvedCall)
  | .typeAnnotations _ | .fieldAnnotations _ => Option (List Annotation)
  | .methodAnnotations _ => Option MethodAnnotations
  | .dependencies _ => Option (List String)
  | .resources => List ResourceSummary
  | .resourceContent _ => Option ResourceContent
  | .manifest => Option String
  | .diagnostics => Diagnostics

/-- The reply of an engine to a question. -/
def Engine.reply (e : Engine) : (q : Question) → Reply q.Answer
  | .types => e.types
  | .hierarchy t => e.hierarchy t
  | .methods t => e.methods t
  | .fields t => e.fields t
  | .unitText b t => e.unitText b t
  | .memberSpan m => e.memberSpan m
  | .methodUses m => e.methodUses m
  | .methodUsedBy m => e.methodUsedBy m
  | .fieldUsedBy f => e.fieldUsedBy f
  | .typeUsedBy t => e.typeUsedBy t
  | .overrides m => e.overrides m
  | .unresolvedCalls m => e.unresolvedCalls m
  | .typeAnnotations t => e.typeAnnotations t
  | .methodAnnotations m => e.methodAnnotations m
  | .fieldAnnotations f => e.fieldAnnotations f
  | .dependencies t => e.dependencies t
  | .resources => e.resources
  | .resourceContent name => e.resourceContent name
  | .manifest => e.manifest
  | .diagnostics => e.diagnostics

/-- `e'` replies as `e` does to every question but `q`. -/
def Engine.AgreesOff (q : Question) (e e' : Engine) : Prop :=
  ∀ q', q' ≠ q → e'.reply q' = e.reply q'

/-- Running the request asks the engine the question: the outcome, which is the answer with what has
been stored and renamed, is not the same whatever the reply. -/
def Session.HangsOn (s : Session) (e : Engine) (files : Files.Tree) (r : Request) (q : Question) :
    Prop :=
  ∃ e₁ e₂, e.AgreesOff q e₁ ∧ e.AgreesOff q e₂ ∧ s.runOn e₁ files r ≠ s.runOn e₂ files r

/-! ## Answers that a fault breaks off -/

/-- `e'` replies as `e` does, but where `e` fails with the fault. -/
def Engine.Mends (F : Fault) (e e' : Engine) : Prop :=
  ∀ q, e'.reply q = e.reply q ∨ e.reply q = .error F

theorem Engine.AgreesOff.mends {q : Question} {F : Fault} {e e' : Engine} (h : e.AgreesOff q e')
    (hF : e.reply q = .error F) : e.Mends F e' := by
  intro q'
  by_cases hq : q' = q
  · subst hq
    exact .inr hF
  · exact .inl (h q' hq)

/-- `x'` is the same as `x`, unless the fault has broken `x` off. -/
def Spared {α : Type} (F : Fault) (x x' : Except Abort α) : Prop :=
  x' = x ∨ x = .error (.ofFault F)

/-- The same of answers with the files after them. -/
def SparedIn {α : Type} (F : Fault) (x x' : Except Abort α × Files.Tree) : Prop :=
  x' = x ∨ x.1 = .error (.ofFault F)

namespace Spared

variable {α β : Type} {F : Fault}

theorem refl (x : Except Abort α) : Spared F x x := .inl rfl

theorem ask {r r' : Reply α} (h : r' = r ∨ r = .error F) :
    Spared F (DexQuery.ask r) (DexQuery.ask r') := by
  rcases h with rfl | rfl
  · exact .refl _
  · exact .inr rfl

theorem askKnown {missing : Failure} {r r' : Reply (Option α)} (h : r' = r ∨ r = .error F) :
    Spared F (DexQuery.askKnown missing r) (DexQuery.askKnown missing r') := by
  rcases h with rfl | rfl
  · exact .refl _
  · exact .inr rfl

theorem bind {x x' : Except Abort α} {f f' : α → Except Abort β} (h : Spared F x x')
    (hf : ∀ y, Spared F (f y) (f' y)) : Spared F (x >>= f) (x' >>= f') := by
  rcases h with rfl | rfl
  · cases x' with
    | error a => exact .refl _
    | ok y => exact hf y
  · exact .inr rfl

end Spared

theorem SparedIn.cases {α : Type} {F : Fault} {x x' : Except Abort α × Files.Tree}
    (h : SparedIn F x x') : x' = x ∨ ∃ files, x = (.error (.ofFault F), files) := by
  rcases h with hsame | hbroken
  · exact .inl hsame
  · exact .inr ⟨x.2, Prod.ext hbroken rfl⟩

namespace Session

variable {F : Fault} {e e' : Engine} (s : Session) (files : Files.Tree)

theorem unitText_spared (h : e.Mends F e') (b : Bucket) (t : TypeId) :
    SparedIn F (s.unitText e b t files) (s.unitText e' b t files) := by
  rw [unitText, unitText]
  cases s.cache.get files s.cacheKey b t.raw with
  | some text => exact .inl rfl
  | none =>
    have hreply : e'.unitText b t = e.unitText b t ∨ e.unitText b t = .error F :=
      h (.unitText b t)
    rcases hreply with hsame | hfault
    · rw [hsame]
      exact .inl rfl
    · rw [hfault]
      exact .inr rfl

theorem decompileClass_spared (h : e.Mends F e') (t : TypeId) :
    SparedIn F (s.decompileClass e t files) (s.decompileClass e' t files) := by
  rw [decompileClass, decompileClass]
  rcases (s.unitText_spared files h .source t).cases with hsame | ⟨files', hbroken⟩
  · rw [hsame]
    split
    · exact .inl rfl
    · split
      · exact .inl rfl
      · have hknown : Spared F (askKnown (.typeNotFound t.text) (e.hierarchy t))
            (askKnown (.typeNotFound t.text) (e'.hierarchy t)) := .askKnown (h (.hierarchy t))
        rcases hknown with hknown | hknown
        · rw [hknown]
          exact .inl rfl
        · rw [hknown]
          exact .inr rfl
  · rw [hbroken]
    exact .inr rfl

theorem methodSource_spared (h : e.Mends F e') (m : MethodId) (span : Source.Span) :
    SparedIn F (s.methodSource e m span files) (s.methodSource e' m span files) := by
  rw [methodSource, methodSource]
  split
  · exact .inl rfl
  · rcases (s.unitText_spared files h .source m.owner).cases with hsame | ⟨files', hbroken⟩
    · rw [hsame]
      exact .inl rfl
    · rw [hbroken]
      exact .inr rfl

theorem decompileMethod_spared (h : e.Mends F e') (m : MethodId) :
    SparedIn F (s.decompileMethod e m files) (s.decompileMethod e' m files) := by
  rw [decompileMethod, decompileMethod]
  have hknown : Spared F (askKnown (.methodNotFound m.text) (e.memberSpan m))
      (askKnown (.methodNotFound m.text) (e'.memberSpan m)) := .askKnown (h (.memberSpan m))
  rcases hknown with hknown | hknown
  · rw [hknown]
    split
    · exact .inl rfl
    · rename_i span _
      rcases (s.methodSource_spared files h m span).cases with hsame | ⟨files', hbroken⟩
      · rw [hsame]
        split
        · exact .inl rfl
        · rename_i source files₁ _
          rcases (s.unitText_spared files₁ h .disasm m.owner).cases with hsame' | ⟨files', hbroken⟩
          · rw [hsame']
            exact .inl rfl
          · rw [hbroken]
            exact .inr rfl
      · rw [hbroken]
        exact .inr rfl
  · rw [hknown]
    exact .inr rfl

theorem annotations_spared (h : e.Mends F e') (target : EntityId) :
    Spared F (s.annotations e target) (s.annotations e' target) := by
  refine Spared.bind ?_ fun _ => .refl _
  cases target with
  | type t => exact (Spared.askKnown (h (.typeAnnotations t))).bind fun _ => .refl _
  | method m => exact Spared.askKnown (h (.methodAnnotations m))
  | field f => exact (Spared.askKnown (h (.fieldAnnotations f))).bind fun _ => .refl _

/-- What a request comes to, if the fault has not broken it off. -/
theorem runOn_of_pure {x x' : Except Abort Output} (h : Spared F x x') :
    Result.pure s files x' = Result.pure s files x ∨
      (Result.pure s files x).answer = .error (.ofFault F) :=
  h.imp_left (congrArg _)

theorem runOn_of_files {x x' : Except Abort Output × Files.Tree} (h : SparedIn F x x') :
    Result.ofFiles s x' = Result.ofFiles s x ∨
      (Result.ofFiles s x).answer = .error (.ofFault F) :=
  h.imp_left (congrArg _)

/-- **A fault breaks an answer off**, whatever the request is, but for a search. -/
theorem runOn_spared (h : e.Mends F e') {r : Request} (hr : r.operation ≠ .searchStrings) :
    s.runOn e' files r = s.runOn e files r ∨
      (s.runOn e files r).answer = .error (.ofFault F) := by
  cases r with
  | searchStrings q => exact absurd rfl hr
  | listTypes =>
    exact s.runOn_of_pure files
      ((Spared.refl _).bind fun _ => (Spared.ask (h .types)).bind fun _ => .refl _)
  | listPackages => exact s.runOn_of_pure files ((Spared.ask (h .types)).bind fun _ => .refl _)
  | hierarchy t =>
    exact s.runOn_of_pure files ((Spared.askKnown (h (.hierarchy t))).bind fun _ =>
      (Spared.ask (h .types)).bind fun _ => .refl _)
  | dependencies t =>
    exact s.runOn_of_pure files ((Spared.askKnown (h (.dependencies t))).bind fun _ => .refl _)
  | listMethods t =>
    exact s.runOn_of_pure files ((Spared.refl _).bind fun _ =>
      (Spared.askKnown (h (.methods t))).bind fun _ => .refl _)
  | listMethodsDetail t =>
    exact s.runOn_of_pure files ((Spared.askKnown (h (.methods t))).bind fun _ => .refl _)
  | listFields t =>
    exact s.runOn_of_pure files ((Spared.refl _).bind fun _ =>
      (Spared.askKnown (h (.fields t))).bind fun _ => .refl _)
  | annotations target => exact s.runOn_of_pure files (s.annotations_spared h target)
  | decompileClass t => exact s.runOn_of_files (s.decompileClass_spared files h t)
  | decompileMethod m => exact s.runOn_of_files (s.decompileMethod_spared files h m)
  | xrefsTo m =>
    exact s.runOn_of_pure files ((Spared.askKnown (h (.methodUsedBy m))).bind fun _ => .refl _)
  | xrefsFrom m =>
    exact s.runOn_of_pure files ((Spared.askKnown (h (.methodUses m))).bind fun _ => .refl _)
  | fieldXrefs f =>
    exact s.runOn_of_pure files ((Spared.askKnown (h (.fieldUsedBy f))).bind fun _ => .refl _)
  | classXrefs t =>
    exact s.runOn_of_pure files ((Spared.askKnown (h (.typeUsedBy t))).bind fun _ => .refl _)
  | overrides m =>
    exact s.runOn_of_pure files ((Spared.askKnown (h (.overrides m))).bind fun _ => .refl _)
  | unresolved m =>
    exact s.runOn_of_pure files ((Spared.askKnown (h (.unresolvedCalls m))).bind fun _ => .refl _)
  | manifest => exact s.runOn_of_pure files ((Spared.askKnown (h .manifest)).bind fun _ => .refl _)
  | listResources => exact s.runOn_of_pure files ((Spared.ask (h .resources)).bind fun _ => .refl _)
  | resourceContent name =>
    exact s.runOn_of_pure files
      ((Spared.askKnown (h (.resourceContent name))).bind fun _ => .refl _)
  | errorReport => exact s.runOn_of_pure files ((Spared.ask (h .diagnostics)).bind fun _ => .refl _)
  | rename _ _ | removeRename _ | listRenames | sessionInfo => exact .inl rfl

end Session

/-! ## Searches -/

/-- The warning that a search gives about an error in the reply to the question, if it goes on after
one. -/
def Question.warning? (causes : List String) : Question → Option String
  | .unitText .source t =>
    some ("skipped " ++ t.text ++ ": " ++ (Failure.engineFailed (Fault.chain causes)).message)
  | .methods t =>
    some ("method attribution unavailable for " ++ t.text ++ ": " ++ Fault.chain causes)
  | .memberSpan m =>
    some ("method attribution unavailable for " ++ m.owner.text ++ ": " ++ Fault.chain causes)
  | _ => none

/-- The fault is an error in the reply to the question, and among the warnings is the one about
it. -/
def WarnedOf (q : Question) (F : Fault) (warnings : List String) : Prop :=
  ∃ causes w, F = .error causes ∧ q.warning? causes = some w ∧ w ∈ warnings

theorem WarnedOf.mono {q : Question} {F : Fault} {ws ws' : List String} (h : WarnedOf q F ws)
    (hsub : ws ⊆ ws') : WarnedOf q F ws' := by
  obtain ⟨causes, w, hF, hw, hmem⟩ := h
  exact ⟨causes, w, hF, hw, hsub hmem⟩

namespace StringSearch

variable {q : Question} {F : Fault} {e e' : Engine}

/-- The byte ranges of methods hang on where the engine says the methods are. -/
theorem rangesOf_spared (h : e.AgreesOff q e') (hF : e.reply q = .error F) (t : TypeId)
    (unit : String) (ms : List MethodModel) :
    rangesOf e' t unit ms = rangesOf e t unit ms ∨
      (rangesOf e t unit ms = .error F ∧ ∃ m : MethodId, m.owner = t ∧ q = .memberSpan m) := by
  induction ms with
  | nil => exact .inl rfl
  | cons m ms ih =>
    rw [rangesOf, rangesOf]
    by_cases hq : .memberSpan (m.id t) = q
    · subst hq
      have hfault : e.memberSpan (m.id t) = .error F := hF
      rw [hfault]
      exact .inr ⟨rfl, m.id t, rfl, rfl⟩
    · have hsame : e'.memberSpan (m.id t) = e.memberSpan (m.id t) := h (.memberSpan (m.id t)) hq
      rw [hsame]
      cases e.memberSpan (m.id t) with
      | error fault => exact .inl rfl
      | ok span =>
        rcases ih with hrest | ⟨hrest, hm⟩
        · rw [hrest]
          exact .inl rfl
        · rw [hrest]
          exact .inr ⟨rfl, hm⟩

theorem methodRanges_spared (h : e.AgreesOff q e') (hF : e.reply q = .error F) (t : TypeId)
    (unit : String) :
    methodRanges e' t unit = methodRanges e t unit ∨
      (methodRanges e t unit = .error F ∧ ∀ causes, q.warning? causes =
        some ("method attribution unavailable for " ++ t.text ++ ": " ++ Fault.chain causes)) := by
  rw [methodRanges, methodRanges]
  by_cases hq : .methods t = q
  · subst hq
    have hfault : e.methods t = .error F := hF
    rw [hfault]
    exact .inr ⟨rfl, fun _ => rfl⟩
  · have hsame : e'.methods t = e.methods t := h (.methods t) hq
    rw [hsame]
    cases e.methods t with
    | error fault => exact .inl rfl
    | ok methods =>
      rcases rangesOf_spared h hF t unit (methods.getD []) with hsame' | ⟨hfault, m, rfl, rfl⟩
      · exact .inl hsame'
      · exact .inr ⟨hfault, fun _ => rfl⟩

/-- An error in finding the methods of a type is warned of, and a panic breaks the search off. -/
theorem attribution_spared (h : e.AgreesOff q e') (hF : e.reply q = .error F) (t : TypeId)
    (unit : String) :
    Spared F (attribution e t unit) (attribution e' t unit) ∨
      ∃ ranges warnings, attribution e t unit = .ok (ranges, warnings) ∧ WarnedOf q F warnings := by
  rw [attribution, attribution]
  rcases methodRanges_spared h hF t unit with hsame | ⟨hfault, hwarning⟩
  · rw [hsame]
    exact .inl (.refl _)
  · rw [hfault]
    cases F with
    | panic message => exact .inl (.inr rfl)
    | error causes =>
      exact .inr ⟨_, _, rfl, causes, _, rfl, hwarning causes, List.mem_singleton_self _⟩

/-- The source of a type is got as before, or the question was about it and its fault is got. -/
theorem unitText_spared (s : Session) (h : e.AgreesOff q e') (hF : e.reply q = .error F)
    (t : TypeId) (files : Files.Tree) :
    s.unitText e' .source t files = s.unitText e .source t files ∨
      (s.unitText e .source t files = (.error (.ofFault F), files) ∧ q = .unitText .source t) := by
  rw [Session.unitText, Session.unitText]
  by_cases hq : .unitText .source t = q
  · subst hq
    have hfault : e.unitText .source t = .error F := hF
    cases s.cache.get files s.cacheKey .source t.raw with
    | some text => exact .inl rfl
    | none =>
      rw [hfault]
      exact .inr ⟨rfl, rfl⟩
  · have hsame : e'.unitText .source t = e.unitText .source t := h (.unitText .source t) hq
    rw [hsame]
    exact .inl rfl

/-- What a search of one type comes to: an error in getting its source or finding its methods is
warned of, and a panic breaks the search off. -/
theorem scanType_spared (search : StringSearch) (s : Session) (h : e.AgreesOff q e')
    (hF : e.reply q = .error F) (t : TypeId) (files : Files.Tree) :
    SparedIn F (search.scanType s e t files) (search.scanType s e' t files) ∨
      ∃ found, (search.scanType s e t files).1 = .ok found ∧ WarnedOf q F found.warnings := by
  rw [scanType, scanType]
  rcases unitText_spared s h hF t files with hsame | ⟨hbroken, rfl⟩
  · rw [hsame]
    cases s.unitText e .source t files with
    | mk result files' =>
      cases result with
      | error a => cases a <;> exact .inl (.inl rfl)
      | ok fetched =>
        cases htext : fetched.text with
        | none =>
          simp only [htext]
          exact .inl (.inl rfl)
        | some unit =>
          simp only [htext]
          rcases attribution_spared h hF t unit with (hsame' | hbroken) | ⟨ranges, ws, hok, hwarned⟩
          · rw [hsame']
            exact .inl (.inl rfl)
          · rw [hbroken]
            exact .inl (.inr rfl)
          · rw [hok]
            exact .inr ⟨_, rfl, hwarned.mono (List.subset_append_right ..)⟩
  · rw [hbroken]
    cases F with
    | panic message => exact .inl (.inr rfl)
    | error causes =>
      exact .inr ⟨_, rfl, causes, _, rfl, rfl, List.mem_singleton_self _⟩

/-- A search of one type is broken off by a panic alone. -/
theorem scanType_error (search : StringSearch) (s : Session) (e : Engine) (t : TypeId)
    (files : Files.Tree) {a : Abort} (h : (search.scanType s e t files).1 = .error a) :
    ∃ message, a = .panicked message := by
  unfold scanType at h
  split at h
  · exact ⟨_, (Except.error.inj h).symm⟩
  · cases h
  · split at h
    · cases h
    · split at h
      · rename_i a' hattribution
        obtain rfl := Except.error.inj h
        unfold attribution at hattribution
        split at hattribution
        · cases hattribution
        · cases hattribution
        · exact ⟨_, (Except.error.inj hattribution).symm⟩
      · cases h

theorem scanTypes_error (search : StringSearch) (s : Session) (e : Engine) (ts : List TypeId)
    (files : Files.Tree) {a : Abort} (h : (search.scanTypes s e ts files).1 = .error a) :
    ∃ message, a = .panicked message := by
  induction ts generalizing files with
  | nil => cases h
  | cons t ts ih =>
    unfold scanTypes at h
    split at h
    · rename_i a' files₁ hscan
      obtain rfl := Except.error.inj h
      exact search.scanType_error s e t files (congrArg Prod.fst hscan)
    · split at h
      · rename_i a' files₂ hrest
        obtain rfl := Except.error.inj h
        exact ih _ (congrArg Prod.fst hrest)
      · cases h

/-- What a search of all types comes to: it is the same, or a panic of the engine has broken it off,
or it has gone on and warns of the fault. -/
theorem scanTypes_spared (search : StringSearch) (s : Session) (h : e.AgreesOff q e')
    (hF : e.reply q = .error F) (ts : List TypeId) (files : Files.Tree) :
    search.scanTypes s e' ts files = search.scanTypes s e ts files ∨
      (∃ a, (search.scanTypes s e ts files).1 = .error a) ∨
      ∃ found, (search.scanTypes s e ts files).1 = .ok found ∧ WarnedOf q F found.warnings := by
  induction ts generalizing files with
  | nil => exact .inl rfl
  | cons t ts ih =>
    rw [scanTypes, scanTypes]
    rcases search.scanType_spared s h hF t files with hspared | ⟨found, hok, hwarned⟩
    · rcases hspared.cases with hsame | ⟨files₁, hbroken⟩
      · rw [hsame]
        split
        · exact .inl rfl
        · rename_i found files₁ _
          rcases ih files₁ with hrest | ⟨a, hrest⟩ | ⟨rest, hrest, hwarned⟩
          · rw [hrest]
            exact .inl rfl
          · cases hscan : search.scanTypes s e ts files₁ with
            | mk result files₂ =>
              rw [hscan] at hrest
              obtain rfl : result = .error a := hrest
              exact .inr (.inl ⟨a, rfl⟩)
          · cases hscan : search.scanTypes s e ts files₁ with
            | mk result files₂ =>
              rw [hscan] at hrest
              obtain rfl : result = .ok rest := hrest
              exact .inr (.inr ⟨_, rfl, hwarned.mono (List.subset_append_right ..)⟩)
      · rw [hbroken]
        exact .inr (.inl ⟨_, rfl⟩)
    · -- The fault is warned of, and the warning is lost only if the rest is broken off.
      right
      cases hscan : search.scanType s e t files with
      | mk result files₁ =>
        rw [hscan] at hok
        obtain rfl : result = .ok found := hok
        cases hrest : search.scanTypes s e ts files₁ with
        | mk result files₂ =>
          cases result with
          | error a => exact .inl ⟨a, by simp only [hrest]⟩
          | ok rest =>
            exact .inr ⟨found.append rest, by simp only [hrest],
              hwarned.mono (List.subset_append_left ..)⟩

end StringSearch

namespace Session

variable {q : Question} {F : Fault} {e e' : Engine} {s : Session} {files : Files.Tree}

/-- What a search comes to. -/
theorem searchStrings_spared (h : e.AgreesOff q e') (hF : e.reply q = .error F)
    (search : StringSearch) :
    s.searchStrings e' search files = s.searchStrings e search files ∨
      (∃ fault, (s.searchStrings e search files).1 = .error (.ofFault fault)) ∨
      ∃ out, (s.searchStrings e search files).1 = .ok out ∧ WarnedOf q F out.warnings := by
  rw [searchStrings, searchStrings]
  have htypes : Spared F (ask e.types) (ask e'.types) := .ask (h.mends hF .types)
  rcases htypes with htypes | htypes
  · rw [htypes]
    split
    · exact .inl rfl
    · rename_i types _
      rcases search.scanTypes_spared s h hF (StringSearch.searchOrder types) files with
        hsame | ⟨a, hbroken⟩ | ⟨found, hok, hwarned⟩
      · rw [hsame]
        exact .inl rfl
      · obtain ⟨message, rfl⟩ := search.scanTypes_error s e _ files hbroken
        right; left
        cases hscan : search.scanTypes s e (StringSearch.searchOrder types) files with
        | mk result files' =>
          rw [hscan] at hbroken
          obtain rfl : result = _ := hbroken
          exact ⟨.panic message, rfl⟩
      · right; right
        cases hscan : search.scanTypes s e (StringSearch.searchOrder types) files with
        | mk result files' =>
          rw [hscan] at hok
          obtain rfl : result = _ := hok
          exact ⟨search.answer s found, rfl, hwarned⟩
  · rw [htypes]
    exact .inr (.inl ⟨F, rfl⟩)

/-! ## Faults that are met -/

/-- The fault in the reply to a question shows in the answer to a request: it has broken the answer
off, or the request is a search, which another fault has broken off or which warns of the fault. -/
inductive Shows (q : Question) (F : Fault) (r : Request) : Except Abort Output → Prop
  | broken : Shows q F r (.error (.ofFault F))
  | brokenElsewhere (fault : Fault) (hr : r.operation = .searchStrings) :
      Shows q F r (.error (.ofFault fault))
  | warned {out : Output} (hr : r.operation = .searchStrings) (h : WarnedOf q F out.warnings) :
      Shows q F r (.ok out)

/-- Two engines that reply alike to all other questions bring about the same, or the fault of the
first shows. -/
theorem runOn_eq_or_shows (h : e.AgreesOff q e') (hF : e.reply q = .error F) (r : Request) :
    s.runOn e' files r = s.runOn e files r ∨ Shows q F r (s.runOn e files r).answer := by
  by_cases hr : r.operation = .searchStrings
  · cases r with
    | searchStrings search =>
      rcases searchStrings_spared h hF search with hsame | ⟨fault, hbroken⟩ | ⟨out, hok, hwarned⟩
      · exact .inl (congrArg (Result.ofFiles s) hsame)
      · right
        rw [show (s.runOn e files (.searchStrings search)).answer = _ from hbroken]
        exact .brokenElsewhere fault rfl
      · right
        rw [show (s.runOn e files (.searchStrings search)).answer = _ from hok]
        exact .warned rfl hwarned
    | _ => cases hr
  · rcases s.runOn_spared files (h.mends hF) hr with hsame | hbroken
    · exact .inl hsame
    · right
      rw [hbroken]
      exact .broken

/-- **A fault that is met shows.** If running a request asks the engine a question and the engine
fails at it, the answer is broken off, or a search has caught the error and warns of it. -/
theorem runOn_of_fault {r : Request} (hF : e.reply q = .error F) (h : s.HangsOn e files r q) :
    Shows q F r (s.runOn e files r).answer := by
  obtain ⟨e₁, e₂, h₁, h₂, hne⟩ := h
  rcases runOn_eq_or_shows h₁ hF r with hsame₁ | hshows
  · rcases runOn_eq_or_shows h₂ hF r with hsame₂ | hshows
    · exact absurd (hsame₁.trans hsame₂.symm) hne
    · exact hshows
  · exact hshows

end Session
end DexQuery
