import DexQuery.Operation.Schema
import DexQuery.Proofs.Json.Ordered
import DexQuery.Session.Run

/-!
# The data of answers

Every answer is an object that is put together from texts, numbers and lists of entries, so it is
ordered, and it is not null (`Session.runOn_definite`).
-/

namespace DexQuery

open Json (Ordered Definite)

/-! ## What an answer is like -/

/-- The answer, if there is one, is like that. -/
def Yields (P : Output → Prop) (x : Except Abort Output) : Prop := ∀ out, x = .ok out → P out

namespace Yields

variable {P : Output → Prop}

theorem ok {out : Output} (h : P out) : Yields P (.ok out) := by
  rintro _ ⟨⟩
  exact h

theorem error (a : Abort) : Yields P (.error a) := fun _ h => nomatch h

theorem bind {α : Type} (x : Except Abort α) {f : α → Except Abort Output}
    (hf : ∀ y, Yields P (f y)) : Yields P (x >>= f) := by
  cases x with
  | error a => exact error a
  | ok y => exact hf y

theorem ofStore {α : Type} (x : Except Failure α) {f : α → Output} (hf : ∀ y, P (f y)) :
    Yields P (Session.ofStore f x) := by
  cases x with
  | error e => exact error _
  | ok y => exact ok (hf y)

end Yields

/-! ## Parts of answers -/

theorem Settings.ordered_toJson (settings : Settings) : settings.toJson.Ordered :=
  .ofMembers (by simp)

mutual

theorem Annotation.ordered_toJson : (a : Annotation) → a.toJson.Ordered
  | .mk className visibility values => by
    rw [ Annotation.toJson]
    exact .ofMembers (by simp [Ordered.ofMembers (AnnotationValue.ordered_membersToJson values)])

theorem AnnotationValue.ordered_membersToJson : (values : List (String × AnnotationValue)) →
    ∀ m ∈ AnnotationValue.membersToJson values, m.2.Ordered
  | [] => by simp [AnnotationValue.membersToJson]
  | (k, v) :: r => by
    rw [AnnotationValue.membersToJson]
    exact List.forall_mem_cons.2 ⟨v.ordered_toJson, AnnotationValue.ordered_membersToJson r⟩

theorem AnnotationValue.ordered_toJson : (v : AnnotationValue) → v.toJson.Ordered
  | .mk type value values inner => by
    rw [AnnotationValue.toJson.eq_def]
    refine .ofMembers (List.forall_mem_cons.2 ⟨.string type, ?_⟩)
    simp only [List.forall_mem_append]
    refine ⟨⟨?_, ?_⟩, ?_⟩
    · cases value with
      | none => exact List.forall_mem_nil _
      | some s => exact List.forall_mem_singleton.2 (.string s)
    · cases values with
      | none => exact List.forall_mem_nil _
      | some vs =>
        exact List.forall_mem_singleton.2 (.array (AnnotationValue.ordered_itemsToJson vs))
    · cases inner with
      | none => exact List.forall_mem_nil _
      | some a => exact List.forall_mem_singleton.2 a.ordered_toJson

theorem AnnotationValue.ordered_itemsToJson : (vs : List AnnotationValue) →
    ∀ x ∈ AnnotationValue.itemsToJson vs, x.Ordered
  | [] => by simp [AnnotationValue.itemsToJson]
  | v :: r => by
    rw [AnnotationValue.itemsToJson]
    exact List.forall_mem_cons.2 ⟨v.ordered_toJson, AnnotationValue.ordered_itemsToJson r⟩

end

theorem Annotation.ordered_list (as : List Annotation) : Ordered <| Annotation.listToJson as :=
  .listOf Annotation.ordered_toJson as

namespace Session

variable (s : Session) {ms : List (String × Json)}

theorem ordered_provenance : s.provenance.Ordered :=
  .ofMembers (by simp [s.settings.ordered_toJson])

theorem definite_answer (h : ∀ m ∈ ms, m.2.Ordered) : (s.answer ms).Definite :=
  .ofMembers (by simpa [s.ordered_provenance] using h)

theorem definite_unnamedAnswer (h : ∀ m ∈ ms, m.2.Ordered) : (s.unnamedAnswer ms).Definite :=
  .ofMembers (by simpa [s.ordered_provenance] using h)

theorem definite_info : s.info.Definite := .ofMembers (by simp [s.ordered_provenance])

/-! ## Entries of lists -/

theorem ordered_aliasMember (labels : List (String × Label)) (id : String) :
    ∀ m ∈ aliasMember labels id, m.2.Ordered := by
  unfold aliasMember
  split <;> simp

theorem ordered_typeEntry (labels : List (String × Label)) (t : TypeSummary) :
    (typeEntry labels t).Ordered :=
  .ofMembers (by simpa using ordered_aliasMember labels _)

theorem ordered_methodEntry (labels : List (String × Label)) (t : TypeId) (m : MethodModel) :
    (methodEntry labels t m).Ordered :=
  .ofMembers (by simpa using ordered_aliasMember labels _)

theorem ordered_fieldEntry (labels : List (String × Label)) (t : TypeId) (f : FieldModel) :
    (fieldEntry labels t f).Ordered :=
  .ofMembers (by simpa using ordered_aliasMember labels _)

end Session

theorem StringSearch.ordered_matchEntry (m : String × List Place) : (matchEntry m).Ordered := by
  have hplace : ∀ p : Place, p.toJson.Ordered := fun _ => .ofMembers (by simp)
  exact .ofMembers (by simp [Ordered.listOf hplace])

/-! ## Answers -/

namespace Session

variable (s : Session) (e : Engine) (files : Files.Tree)

theorem decompileClass_definite (t : TypeId) :
    Yields (fun out => out.data.Definite) (s.decompileClass e t files).1 := by
  have hanswer : ∀ java warnings, (s.classAnswer t java warnings).data.Definite := fun _ _ =>
    s.definite_answer (by simp)
  unfold decompileClass
  split
  · exact .error _
  · split
    · exact .ok (hanswer ..)
    · split
      · exact .error _
      · exact .ok (hanswer ..)

theorem definite_methodAnswer (m : MethodId) (span : Source.Span) (source : SourcePart)
    (disassembly : Fetched) : (s.methodAnswer m span source disassembly).data.Definite := by
  refine s.definite_unnamedAnswer ?_
  cases span.definitionOffset <;> simp [Ordered.ofMembers]

theorem decompileMethod_definite (m : MethodId) :
    Yields (fun out => out.data.Definite) (s.decompileMethod e m files).1 := by
  unfold decompileMethod
  split
  · exact .error _
  · split
    · exact .error _
    · split
      · exact .error _
      · exact .ok (s.definite_methodAnswer ..)

theorem searchStrings_definite (q : StringSearch) :
    Yields (fun out => out.data.Definite) (s.searchStrings e q files).1 := by
  unfold searchStrings
  split
  · exact .error _
  · split
    · exact .error _
    · exact .ok (s.definite_answer (by simp [Ordered.listOf StringSearch.ordered_matchEntry]))

theorem annotations_definite (target : EntityId) :
    Yields (fun out => out.data.Definite) (s.annotations e target) := by
  have hlist := Annotation.ordered_list
  refine .bind _ fun found => .ok (s.definite_unnamedAnswer ?_)
  simp only [List.forall_mem_append]
  refine ⟨by simp [hlist], ?_⟩
  split
  · simp
  · simp [Ordered.listOf hlist]

theorem definite_xrefs (id direction : String) (rs : List Reference) :
    (s.xrefs id direction rs).data.Definite := by
  have hentry : ∀ t : Target, t.toJson.Ordered := fun _ => .ofMembers (by simp)
  exact s.definite_unnamedAnswer (by simp [Ordered.listOf hentry])

/-- **The data of every answer are ordered and not null.** -/
theorem runOn_definite (r : Request) :
    Yields (fun out => out.data.Definite) (s.runOn e files r).answer := by
  cases r with
  | listTypes =>
    exact .bind _ fun labels => .bind _ fun _ =>
      .ok (s.definite_answer (by simp [Ordered.listOf (ordered_typeEntry labels)]))
  | listMethods t =>
    exact .bind _ fun labels => .bind _ fun _ =>
      .ok (s.definite_answer (by simp [Ordered.listOf (ordered_methodEntry labels t)]))
  | listFields t =>
    exact .bind _ fun labels => .bind _ fun _ =>
      .ok (s.definite_answer (by simp [Ordered.listOf (ordered_fieldEntry labels t)]))
  | listPackages =>
    have hentry : ∀ p : String × Package, (p.2.toJson p.1).Ordered := fun _ => .ofMembers (by simp)
    exact .bind _ fun _ => .ok (s.definite_answer (by simp [Ordered.listOf hentry]))
  | listMethodsDetail t =>
    have hentry : ∀ m, (methodDetail t m).Ordered := fun _ => .ofMembers (by simp)
    exact .bind _ fun _ => .ok (s.definite_answer (by simp [Ordered.listOf hentry]))
  | listResources =>
    have hentry : ∀ r : ResourceSummary, r.toJson.Ordered := fun _ => .ofMembers (by simp)
    exact .bind _ fun _ => .ok (s.definite_answer (by simp [Ordered.listOf hentry]))
  | unresolved m =>
    have hentry : ∀ c, (unresolvedEntry c).Ordered := fun _ => .ofMembers (by simp)
    exact .bind _ fun _ => .ok (s.definite_unnamedAnswer (by simp [Ordered.listOf hentry]))
  | overrides m =>
    have hentry : ∀ t, (overrideEntry t).Ordered := fun _ => .ofMembers (by simp)
    exact .bind _ fun _ => .ok (s.definite_unnamedAnswer (by simp [Ordered.listOf hentry]))
  | listRenames =>
    have hentry : ∀ row, (renameEntry row).Ordered := fun _ => .ofMembers (by simp)
    exact .ofStore _ fun _ => .ofMembers (by simp [Ordered.listOf hentry])
  | hierarchy t => exact .bind _ fun _ => .bind _ fun _ => .ok (s.definite_answer (by simp))
  | dependencies t | manifest | resourceContent name | errorReport =>
    exact .bind _ fun _ => .ok (s.definite_answer (by simp))
  | annotations target => exact s.annotations_definite e target
  | xrefsTo m | xrefsFrom m | fieldXrefs f | classXrefs t =>
    exact .bind _ fun _ => .ok (s.definite_xrefs ..)
  | decompileClass t => exact s.decompileClass_definite e files t
  | decompileMethod m => exact s.decompileMethod_definite e files m
  | searchStrings q => exact s.searchStrings_definite e files q
  | rename id name | removeRename id => exact .ofStore _ fun _ => .ofMembers (by simp)
  | sessionInfo => exact .ok s.definite_info

end Session

end DexQuery
