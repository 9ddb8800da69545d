import DexQuery.Engine.Snapshot
import DexQuery.Proofs.Operation.Subject
import DexQuery.Proofs.Session.Fault
import DexQuery.Proofs.Session.Known
import DexQuery.Proofs.Session.Uncached

/-!
# What an export tells of one type

A request about a type, or about a member of it, asks the engine for nothing but this type and its
members, and for the access flags of the type in the list of all types. So engines that agree on
this much (`Engine.AgreesAt`) give the same answer (`Session.runOnUncached_agreesAt`).

In an export a raw name may be repeated. Then the last of the entries is the one that is asked
about, but the list of types is searched from the front, and the access flags are those of the
first.
An export with a single entry that is put together from the two tells the same of the type
(`Export.Artifact.agreesAt_sole`).
-/

namespace DexQuery

/-- The type that an entity is, or is a member of. -/
def EntityId.owner : EntityId → TypeId
  | .type t => t
  | .method m => m.owner
  | .field f => f.owner

/-- The type that a question is about, or about a member of. -/
def Question.owner? : Question → Option TypeId
  | .hierarchy t | .methods t | .fields t | .unitText _ t | .typeUsedBy t | .typeAnnotations t
  | .dependencies t => some t
  | .memberSpan m | .methodUses m | .methodUsedBy m | .overrides m | .unresolvedCalls m
  | .methodAnnotations m => some m.owner
  | .fieldUsedBy f | .fieldAnnotations f => some f.owner
  | .types | .resources | .resourceContent _ | .manifest | .diagnostics => none

/-- The engines reply alike to questions about the type and its members, and list it with the same
access flags. -/
structure Engine.AgreesAt (t : TypeId) (e e' : Engine) : Prop where
  replies : ∀ q, q.owner? = some t → e'.reply q = e.reply q
  flags : e'.types.map (Session.accessFlagsOf t.raw) = e.types.map (Session.accessFlagsOf t.raw)

namespace Session

variable {t : TypeId} {e e' : Engine} {r : Request} {x : EntityId}

theorem hierarchy_agreesAt (h : e.AgreesAt t e') (s : Session) :
    s.hierarchy e' t = s.hierarchy e t := by
  have hreply : e'.hierarchy t = e.hierarchy t := h.replies (.hierarchy t) rfl
  simp only [hierarchy, hreply]
  rcases cases_of_map_eq h.flags with ⟨fault, he', he⟩ | ⟨types', types, he', he, hflags⟩
  · rw [he', he]
  · simp only [he', he, ask, bind, Except.bind, hflags]

theorem annotationsOf_agreesAt (h : e.AgreesAt x.owner e') :
    annotationsOf e' x = annotationsOf e x := by
  cases x with
  | type t =>
    have hreply : e'.typeAnnotations t = e.typeAnnotations t := h.replies (.typeAnnotations t) rfl
    simp only [annotationsOf, hreply]
  | method m =>
    have hreply : e'.methodAnnotations m = e.methodAnnotations m :=
      h.replies (.methodAnnotations m) rfl
    simp only [annotationsOf, hreply]
  | field f =>
    have hreply : e'.fieldAnnotations f = e.fieldAnnotations f :=
      h.replies (.fieldAnnotations f) rfl
    simp only [annotationsOf, hreply]

theorem decompileClass_agreesAt (h : e.AgreesAt t e') (s : Session) :
    s.decompileClassUncached e' t = s.decompileClassUncached e t := by
  have htext : e'.unitText .source t = e.unitText .source t := h.replies (.unitText .source t) rfl
  have hhierarchy : e'.hierarchy t = e.hierarchy t := h.replies (.hierarchy t) rfl
  simp only [decompileClassUncached, htext, hhierarchy]

theorem decompileMethod_agreesAt {m : MethodId} (h : e.AgreesAt m.owner e') (s : Session) :
    s.decompileMethodUncached e' m = s.decompileMethodUncached e m := by
  have hspan : e'.memberSpan m = e.memberSpan m := h.replies (.memberSpan m) rfl
  have htext : ∀ b, e'.unitText b m.owner = e.unitText b m.owner := fun b =>
    h.replies (.unitText b m.owner) rfl
  simp only [decompileMethodUncached, methodSourceUncached, hspan, htext]

/-- **A request about a type sees of an engine what it tells of that type.** -/
theorem runOnUncached_agreesAt (h : e.AgreesAt x.owner e') (hx : r.about? = some x) (s : Session) :
    s.runOnUncached e' r = s.runOnUncached e r := by
  cases r with
  | hierarchy t =>
    obtain rfl := Option.some.inj hx
    exact congrArg (·, s.aliases) (hierarchy_agreesAt h s)
  | annotations target =>
    obtain rfl := Option.some.inj hx
    simp only [runOnUncached, runOn, Result.pure, annotations, annotationsOf_agreesAt h]
  | decompileClass t =>
    obtain rfl := Option.some.inj hx
    exact congrArg (·, s.aliases) (decompileClass_agreesAt h s)
  | decompileMethod m =>
    obtain rfl := Option.some.inj hx
    exact congrArg (·, s.aliases) (decompileMethod_agreesAt h s)
  | dependencies t =>
    obtain rfl := Option.some.inj hx
    have hreply : e'.dependencies t = e.dependencies t := h.replies (.dependencies t) rfl
    simp only [runOnUncached, runOn, Result.pure, dependencies, hreply]
  | listMethods t | listMethodsDetail t =>
    obtain rfl := Option.some.inj hx
    have hreply : e'.methods t = e.methods t := h.replies (.methods t) rfl
    simp only [runOnUncached, runOn, Result.pure, listMethods, listMethodsDetail, hreply]
  | listFields t =>
    obtain rfl := Option.some.inj hx
    have hreply : e'.fields t = e.fields t := h.replies (.fields t) rfl
    simp only [runOnUncached, runOn, Result.pure, listFields, hreply]
  | xrefsTo m =>
    obtain rfl := Option.some.inj hx
    have hreply : e'.methodUsedBy m = e.methodUsedBy m := h.replies (.methodUsedBy m) rfl
    simp only [runOnUncached, runOn, Result.pure, xrefsTo, hreply]
  | xrefsFrom m =>
    obtain rfl := Option.some.inj hx
    have hreply : e'.methodUses m = e.methodUses m := h.replies (.methodUses m) rfl
    simp only [runOnUncached, runOn, Result.pure, xrefsFrom, hreply]
  | fieldXrefs f =>
    obtain rfl := Option.some.inj hx
    have hreply : e'.fieldUsedBy f = e.fieldUsedBy f := h.replies (.fieldUsedBy f) rfl
    simp only [runOnUncached, runOn, Result.pure, fieldXrefs, hreply]
  | classXrefs t =>
    obtain rfl := Option.some.inj hx
    have hreply : e'.typeUsedBy t = e.typeUsedBy t := h.replies (.typeUsedBy t) rfl
    simp only [runOnUncached, runOn, Result.pure, classXrefs, hreply]
  | overrides m =>
    obtain rfl := Option.some.inj hx
    have hreply : e'.overrides m = e.overrides m := h.replies (.overrides m) rfl
    simp only [runOnUncached, runOn, Result.pure, overrides, hreply]
  | unresolved m =>
    obtain rfl := Option.some.inj hx
    have hreply : e'.unresolvedCalls m = e.unresolvedCalls m := h.replies (.unresolvedCalls m) rfl
    simp only [runOnUncached, runOn, Result.pure, unresolved, hreply]
  | listTypes | listPackages | searchStrings _ | manifest | listResources | resourceContent _
  | rename _ _ | removeRename _ | listRenames | errorReport | sessionInfo => cases hx

end Session

/-! ## Exports in which names are repeated -/

namespace Export

/-- The entry with other access flags. -/
def Entry.flagged (e : Entry) (flags : List String) : Entry :=
  { e with summary := { e.summary with accessFlags := flags } }

namespace Artifact

/-- The export with a single type. -/
def sole (a : Artifact) (e : Entry) : Artifact := { a with types := [e] }

/-- What an export tells of the type with a raw name: the last entry with the name, with the access
flags of the first. -/
def record? (a : Artifact) (rawName : String) : Option Entry :=
  (a.entry? rawName).map fun e =>
    e.flagged (Session.accessFlagsOf rawName (a.types.map (·.summary)))

variable {a : Artifact} {t : TypeId} {e : Entry}

theorem entry?_sole (h : t = ⟨e.summary.rawName⟩) : Artifact.entry? (a.sole e) t.raw = some e := by
  subst h
  exact List.find?_cons_of_pos (beq_self_eq_true _)

/-- An export tells of a type what is in its record, and nothing else. -/
theorem agreesAt_sole (h : a.record? t.raw = some e) :
    a.engine.AgreesAt t (a.sole e).engine := by
  obtain ⟨last, hlast, rfl⟩ := Option.map_eq_some_iff.1 h
  obtain ⟨-, hname⟩ := of_entry? hlast
  have hsole := entry?_sole (a := a)
    (e := last.flagged (Session.accessFlagsOf t.raw (a.types.map (·.summary)))) hname
  refine ⟨fun q hq => ?_, ?_⟩
  · cases q with
    | types | resources | resourceContent _ | manifest | diagnostics => cases hq
    | unitText b t' =>
      obtain rfl := Option.some.inj hq
      cases b <;> simp only [Engine.reply, Engine.unitText, engine, hlast, hsole] <;> rfl
    | hierarchy t' | methods t' | fields t' | typeUsedBy t' | typeAnnotations t'
    | dependencies t' =>
      obtain rfl := Option.some.inj hq
      simp only [Engine.reply, engine, hlast, hsole]
      rfl
    | memberSpan m | methodUses m | methodUsedBy m | overrides m | unresolvedCalls m
    | methodAnnotations m =>
      obtain rfl := Option.some.inj hq
      simp only [Engine.reply, engine, method?, hlast, hsole]
      rfl
    | fieldUsedBy f | fieldAnnotations f =>
      obtain rfl := Option.some.inj hq
      simp only [Engine.reply, engine, field?, hlast, hsole]
      rfl
  · have hfound : ∀ flags, Session.accessFlagsOf t.raw [(last.flagged flags).summary] = flags := by
      intro flags
      rw [hname]
      simp [Session.accessFlagsOf, Entry.flagged]
    exact congrArg Except.ok (hfound _)

end Artifact
end Export
end DexQuery
