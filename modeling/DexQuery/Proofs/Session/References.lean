import DexQuery.Proofs.Session.Record
import DexQuery.Proofs.Session.StringSearch
import Mathlib.Data.List.Forall2

/-!
# Answers about references lose nothing

An engine reports a reference as a loose record. It leads to a type, a method or a field if it is of
one of these kinds and has the parts that such an entity is made of (`Reference.Denotes`), and else
it leads nowhere. A reference that leads somewhere has a target, which is the descriptor of the
entity and that of its owner (`Reference.target_of_denotes`); so what a reader makes of a target is
the entity again (`Reference.presents_of_target`). One that leads nowhere has a warning instead.

So the targets in an answer and its warnings are the references one by one, in the order in which
the engine gave them (`Reference.conserved`). Of overridden methods this holds as well, with one
more pass that takes out the targets which are no methods (`Reference.conservedMethods`).
-/

namespace DexQuery

/-! ## Entities -/

namespace EntityId

/-- The descriptor grammar can carry the entity. -/
def WellFormed : EntityId → Prop
  | .type t => t.WellFormed
  | .method m => m.WellFormed
  | .field f => f.WellFormed

instance (x : EntityId) : Decidable x.WellFormed :=
  match x with
  | .type t => inferInstanceAs (Decidable t.WellFormed)
  | .method m => inferInstanceAs (Decidable m.WellFormed)
  | .field f => inferInstanceAs (Decidable f.WellFormed)

/-- The kind of a target that is the entity. -/
def targetKind : EntityId → TargetKind
  | .type _ => .type
  | .method _ => .method
  | .field _ => .field

/-- The reader for the kind of an entity reads its descriptor as the entity. -/
theorem WellFormed.readFrom_text {x : EntityId} (h : x.WellFormed) : x.ReadFrom x.text := by
  cases x with
  | type t => exact TypeId.read_eq_ok_iff.2 ⟨h, rfl⟩
  | method m => exact MethodId.WellFormed.read_text h
  | field f => exact FieldId.WellFormed.read_text h

end EntityId

/-! ## References -/

/-- What a partial function gives on a list is what it gives on the members where it is defined. -/
theorem forall₂_filterMap {α β : Type} {f : α → Option β} {p : α → Prop} [DecidablePred p]
    (hp : ∀ a, p a ↔ (f a).isSome) (l : List α) :
    List.Forall₂ (fun a b => f a = some b) (l.filter p) (l.filterMap f) := by
  induction l with
  | nil => exact .nil
  | cons a l ih =>
    cases hf : f a with
    | none =>
      have hnot : ¬ p a := by simp [hp, hf]
      rw [List.filterMap_cons_none hf, List.filter_cons_of_neg (by simpa using hnot)]
      exact ih
    | some b =>
      have ha : p a := by simp [hp, hf]
      rw [List.filterMap_cons_some hf, List.filter_cons_of_pos (by simpa using ha)]
      exact .cons hf ih

namespace Reference

variable {r : Reference} {x : EntityId} {t : Target}

/-- The reference leads to the entity: it is of the kind of the entity and names all its parts. -/
inductive Denotes (r : Reference) : EntityId → Prop
  | type {raw : String} (hkind : r.kind = "class") (howner : r.declaringType = some raw) :
    r.Denotes (.type ⟨raw⟩)
  | method {raw name ret : String} (hkind : r.kind = "method")
    (howner : r.declaringType = some raw) (hname : r.name = some name)
    (hret : r.returnType = some ret) : r.Denotes (.method ⟨⟨raw⟩, name, r.arguments, ret⟩)
  | field {raw name type : String} (hkind : r.kind = "field")
    (howner : r.declaringType = some raw) (hname : r.name = some name)
    (htype : r.fieldType = some type) : r.Denotes (.field ⟨⟨raw⟩, name, type⟩)

/-- The reference leads somewhere. -/
def Complete (r : Reference) : Prop := ∃ x, r.Denotes x

/-- The reference leads to a method. -/
def LeadsToMethod (r : Reference) : Prop := ∃ m, r.Denotes (.method m)

/-- The target of a reference is the entity that it leads to. -/
theorem target_of_denotes (h : r.Denotes x) :
    r.target = .ok ⟨x.targetKind, x.text, r.name.getD x.owner.simpleName, x.owner.text⟩ := by
  cases h with
  | type hkind howner =>
    simp only [target, howner, hkind, if_true]
    rfl
  | method hkind howner hname hret =>
    simp only [target, howner, hkind, hname, hret]
    rfl
  | field hkind howner hname htype =>
    simp only [target, howner, hkind, hname, htype]
    rfl

/-- A reference that has a target leads somewhere. -/
theorem denotes_of_target (h : r.target = .ok t) : ∃ x, r.Denotes x ∧ x.targetKind = t.kind := by
  cases howner : r.declaringType with
  | none =>
    rw [target, howner] at h
    cases h
  | some raw =>
    simp only [target, howner] at h
    split_ifs at h with hclass hmethod hfield
    · obtain rfl := Except.ok.inj h
      exact ⟨_, .type hclass howner, rfl⟩
    · split at h
      · rename_i name ret hname hret
        obtain rfl := Except.ok.inj h
        exact ⟨_, .method hmethod howner hname hret, rfl⟩
      · cases h
    · split at h
      · rename_i name type hname htype
        obtain rfl := Except.ok.inj h
        exact ⟨_, .field hfield howner hname htype, rfl⟩
      · cases h

/-- The target is that of the reference, and so of the entity that the reference leads to: the
descriptor in it is read as this entity, with the owner, the name and the types that it has in the
reference, as long as the descriptor grammar can carry them. -/
structure Presents (r : Reference) (t : Target) : Prop where
  target : r.target = .ok t
  kind : ∀ x, r.Denotes x → t.kind = x.targetKind
  declaringType : ∀ x, r.Denotes x → t.declaringType = x.owner.text
  id : ∀ x, r.Denotes x → x.WellFormed → x.ReadFrom t.id

theorem presents_of_target (h : r.target = .ok t) : r.Presents t := by
  have heq : ∀ x, r.Denotes x →
      t = ⟨x.targetKind, x.text, r.name.getD x.owner.simpleName, x.owner.text⟩ :=
    fun x hx => Except.ok.inj (h.symm.trans (target_of_denotes hx))
  refine ⟨h, fun x hx => ?_, fun x hx => ?_, fun x hx hwf => ?_⟩
  · rw [heq x hx]
  · rw [heq x hx]
  · rw [heq x hx]
    exact hwf.readFrom_text

/-- The warning says why the reference has no target. -/
def Skipped (r : Reference) (warning : String) : Prop :=
  ∃ why, r.target = .error why ∧ warning = "skipped reference: " ++ why.message

/-- The warning names the target, which is no method. -/
def Foreign (r : Reference) (warning : String) : Prop :=
  ∃ t, r.Presents t ∧ warning = "skipped non-method override " ++ t.id

theorem target?_eq_some_iff : r.target? = some t ↔ r.target = .ok t := by
  unfold target?
  cases r.target <;> simp

theorem warning?_eq_some_iff {w : String} : r.warning? = some w ↔ r.Skipped w := by
  unfold warning? Skipped
  cases r.target <;> simp [eq_comm]

theorem complete_iff_target? : r.Complete ↔ r.target?.isSome := by
  rw [Option.isSome_iff_exists]
  constructor
  · rintro ⟨x, hx⟩
    exact ⟨_, target?_eq_some_iff.2 (target_of_denotes hx)⟩
  · rintro ⟨t, ht⟩
    obtain ⟨x, hx, -⟩ := denotes_of_target (target?_eq_some_iff.1 ht)
    exact ⟨x, hx⟩

theorem not_complete_iff_warning? : ¬ r.Complete ↔ r.warning?.isSome := by
  rw [complete_iff_target?]
  unfold target? warning?
  cases r.target <;> simp

theorem leadsToMethod_iff_target? :
    r.LeadsToMethod ↔ (r.target?.filter fun t => t.kind = .method).isSome := by
  constructor
  · rintro ⟨m, hm⟩
    rw [target?_eq_some_iff.2 (target_of_denotes hm)]
    rfl
  · intro h
    obtain ⟨t, ht⟩ := Option.isSome_iff_exists.1 h
    obtain ⟨htarget, hkind⟩ := Option.filter_eq_some_iff.1 ht
    obtain ⟨x, hx, hsame⟩ := denotes_of_target (target?_eq_some_iff.1 htarget)
    rw [of_decide_eq_true hkind] at hsame
    cases x with
    | method m => exact ⟨m, hx⟩
    | type t => cases hsame
    | field f => cases hsame

instance (r : Reference) : Decidable r.Complete := decidable_of_iff _ complete_iff_target?.symm

instance (r : Reference) : Decidable r.LeadsToMethod :=
  decidable_of_iff _ leadsToMethod_iff_target?.symm

/-! ## Lists of references -/

/-- The targets and the warnings are those of the references, in their order: a target for each that
leads somewhere and a warning for each that does not. -/
structure Conserved (nodes : List Reference) (targets : List Target)
    (warnings : List String) : Prop where
  kept : List.Forall₂ Presents (nodes.filter Complete) targets
  skipped : List.Forall₂ Skipped (nodes.filter fun r => ¬ r.Complete) warnings
  total : targets.length + warnings.length = nodes.length

/-- The same where only methods are kept: a target for each reference that leads to a method, a
warning for each that leads nowhere, and after these one for each that leads to something else. -/
structure ConservedMethods (nodes : List Reference) (methods : List Target)
    (warnings : List String) : Prop where
  kept : List.Forall₂ Presents (nodes.filter LeadsToMethod) methods
  omitted : ∃ skipped foreign, warnings = skipped ++ foreign ∧
    List.Forall₂ Skipped (nodes.filter fun r => ¬ r.Complete) skipped ∧
      List.Forall₂ Foreign (nodes.filter fun r => r.Complete ∧ ¬ r.LeadsToMethod) foreign
  total : methods.length + warnings.length = nodes.length

/-- A reference has either a target or a warning, so the two passes over the list share it out. -/
theorem conserved (nodes : List Reference) :
    Conserved nodes (nodes.filterMap target?) (nodes.filterMap warning?) := by
  have htargets := forall₂_filterMap (fun r : Reference => r.complete_iff_target?) nodes
  have hwarnings := forall₂_filterMap (fun r : Reference => r.not_complete_iff_warning?) nodes
  refine ⟨htargets.imp fun r t h => presents_of_target (target?_eq_some_iff.1 h),
    hwarnings.imp fun r w h => warning?_eq_some_iff.1 h, ?_⟩
  rw [← htargets.length_eq, ← hwarnings.length_eq,
    nodes.length_eq_length_filter_add fun r => r.Complete]
  simp only [decide_not]

/-- What is said of a target that is no method. -/
def foreign? (r : Reference) : Option String :=
  (r.target?.filter fun t => t.kind ≠ .method).map fun t => "skipped non-method override " ++ t.id

theorem foreign_of_foreign? {w : String} (h : r.foreign? = some w) : r.Foreign w := by
  obtain ⟨t, ht, rfl⟩ := Option.map_eq_some_iff.1 h
  obtain ⟨htarget, -⟩ := Option.filter_eq_some_iff.1 ht
  exact ⟨t, presents_of_target (target?_eq_some_iff.1 htarget), rfl⟩

theorem complete_not_leadsToMethod_iff_foreign? :
    r.Complete ∧ ¬ r.LeadsToMethod ↔ r.foreign?.isSome := by
  rw [complete_iff_target?, leadsToMethod_iff_target?, foreign?, Option.isSome_map]
  cases r.target? with
  | none => simp
  | some t => simp [Option.filter]

/-- The pass that takes out targets shares out those of the references that lead somewhere. -/
theorem conservedMethods (nodes : List Reference) :
    ConservedMethods nodes ((nodes.filterMap target?).filter fun t => t.kind = .method)
      (nodes.filterMap warning? ++ ((nodes.filterMap target?).filter fun t => t.kind ≠ .method).map
        fun t => "skipped non-method override " ++ t.id) := by
  have hall := conserved nodes
  have htotal := hall.total
  have hpasses := (nodes.filterMap target?).length_eq_length_filter_add fun t => t.kind = .method
  refine ⟨?_, ⟨_, _, rfl, hall.skipped, ?_⟩, ?_⟩
  · rw [List.filter_filterMap]
    have hmethods := forall₂_filterMap (fun r : Reference => r.leadsToMethod_iff_target?) nodes
    refine hmethods.imp fun r t h => presents_of_target ?_
    exact target?_eq_some_iff.1 (Option.filter_eq_some_iff.1 h).1
  · rw [List.filter_filterMap, List.map_filterMap]
    have hforeign :=
      forall₂_filterMap (fun r : Reference => r.complete_not_leadsToMethod_iff_foreign?) nodes
    exact hforeign.imp fun r w h => foreign_of_foreign? h
  · simp only [List.length_append, List.length_map, ne_eq, decide_not]
    omega

end Reference

/-! ## Answers -/

/-- The engine gives the references when it is asked what the request asks. The request is about the
entity with the descriptor `id`, and the references lead in the direction. -/
inductive Engine.Refers (e : Engine) (nodes : List Reference) : Request → String → String → Prop
  | toMethod {m : MethodId} (h : e.methodUsedBy m = .ok (some nodes)) :
    e.Refers nodes (.xrefsTo m) m.text "to"
  | fromMethod {m : MethodId} (h : e.methodUses m = .ok (some nodes)) :
    e.Refers nodes (.xrefsFrom m) m.text "from"
  | toField {f : FieldId} (h : e.fieldUsedBy f = .ok (some nodes)) :
    e.Refers nodes (.fieldXrefs f) f.text "to"
  | toType {t : TypeId} (h : e.typeUsedBy t = .ok (some nodes)) :
    e.Refers nodes (.classXrefs t) t.text "to"

namespace Session

theorem runOn_of_refers {e : Engine} {nodes : List Reference} {r : Request}
    {id direction : String} (h : e.Refers nodes r id direction) (s : Session)
    (files : Files.Tree) :
    (s.runOn e files r).answer = .ok (s.xrefs id direction nodes) := by
  cases h with
  | toMethod h =>
    simp only [runOn, Result.pure, xrefsTo, h]
    rfl
  | fromMethod h =>
    simp only [runOn, Result.pure, xrefsFrom, h]
    rfl
  | toField h =>
    simp only [runOn, Result.pure, fieldXrefs, h]
    rfl
  | toType h =>
    simp only [runOn, Result.pure, classXrefs, h]
    rfl

/-- **Answers about references lose nothing.** Where the engine gives references, the answer has
the targets of those that lead somewhere and a warning for every other one, each in the order in
which the engine gave them. Of overridden methods it has those that lead to a method, with a warning
for every other one. And a target has the descriptor of what the reference leads to, which is read
as this again. -/
theorem run_references {s : Session} {e : Engine} (h : s.engine = some e) (files : Files.Tree) :
    (∀ nodes r id direction, e.Refers nodes r id direction → ∃ targets warnings,
      (s.run files r).1 = .ok (.warned (s.unnamedAnswer [("id", .string id),
        ("kind", .string "xrefs"), ("direction", .string direction),
        ("refs", .listOf Target.toJson targets)]) warnings) ∧
      Reference.Conserved nodes targets warnings) ∧
    ∀ nodes m, e.overrides m = .ok (some nodes) → ∃ methods warnings,
      (s.run files (.overrides m)).1 = .ok (.warned (s.unnamedAnswer [("id", .string m.text),
        ("overrides", .listOf overrideEntry methods)]) warnings) ∧
      Reference.ConservedMethods nodes methods warnings := by
  refine ⟨fun nodes r id direction hnodes => ?_, fun nodes m hnodes => ?_⟩
  · refine ⟨_, _, ?_, Reference.conserved nodes⟩
    rw [run_of_engine h, runOn_of_refers hnodes]
    rfl
  · refine ⟨_, _, ?_, Reference.conservedMethods nodes⟩
    rw [run_of_engine h]
    simp only [runOn, Result.pure, overrides, hnodes]
    rfl

/-- References of which two lead somewhere, one of them to a method. -/
def mixedReferences : List Reference :=
  [⟨"class", some "p/A", none, [], none, none⟩, ⟨"method", some "p/A", some "m", [], none, none⟩,
    ⟨"package", some "p", none, [], none, none⟩,
    ⟨"method", some "p/A", some "m", ["I"], some "V", none⟩, ⟨"field", none, none, [], none, none⟩]

/-- An engine that gives them for every method. -/
def mixedEngine : Engine :=
  { sampleArtifact.engine with
    methodUsedBy := fun _ => .ok (some mixedReferences)
    overrides := fun _ => .ok (some mixedReferences) }

/-- Of five references two have a target and three a warning; one target is a method, and its
descriptor is read as that method. -/
theorem run_references_sample :
    let s := sampleSession.withEngine mixedEngine
    let m : MethodId := ⟨⟨"p/B"⟩, "n", [], "V"⟩
    mixedEngine.Refers mixedReferences (.xrefsTo m) m.text "to" ∧
      (∃ targets warnings, (s.run .empty (.xrefsTo m)).1 = .ok (.warned (s.unnamedAnswer
          [("id", .string m.text), ("kind", .string "xrefs"), ("direction", .string "to"),
            ("refs", .listOf Target.toJson targets)]) warnings) ∧
        targets.length = 2 ∧ warnings.length = 3) ∧
      ∃ t warnings, (s.run .empty (.overrides m)).1 = .ok (.warned (s.unnamedAnswer
          [("id", .string m.text), ("overrides", .listOf overrideEntry [t])]) warnings) ∧
        MethodId.read t.id = .ok ⟨⟨"p/A"⟩, "m", ["I"], "V"⟩ ∧ warnings.length = 4 := by
  intro s m
  have hcount : (mixedReferences.filter fun r => r.Complete).length = 2 := by decide +kernel
  have hmethod : mixedReferences.filter (fun r => r.LeadsToMethod) =
      [⟨"method", some "p/A", some "m", ["I"], some "V", none⟩] := by rfl
  obtain ⟨hrefs, hoverrides⟩ := run_references (s := s) rfl .empty
  have hasked : mixedEngine.Refers mixedReferences (.xrefsTo m) m.text "to" := .toMethod rfl
  obtain ⟨targets, warnings, hrun, hall⟩ := hrefs _ _ _ _ hasked
  obtain ⟨methods, warnings', hrun', hall'⟩ := hoverrides mixedReferences m rfl
  have htwo : targets.length = 2 := hall.kept.length_eq.symm.trans hcount
  have hthree : warnings.length = 3 := by
    have htotal : targets.length + warnings.length = 5 := hall.total
    omega
  have hkept := hall'.kept
  rw [hmethod] at hkept
  obtain ⟨t, rest, ht, hrest, rfl⟩ := List.forall₂_cons_left_iff.1 hkept
  obtain rfl := List.forall₂_nil_left_iff.1 hrest
  have hread : MethodId.read t.id = .ok ⟨⟨"p/A"⟩, "m", ["I"], "V"⟩ :=
    ht.id (.method ⟨⟨"p/A"⟩, "m", ["I"], "V"⟩) (.method rfl rfl rfl rfl) (by decide +kernel)
  have htotal : 1 + warnings'.length = 5 := hall'.total
  exact ⟨hasked, ⟨targets, warnings, hrun, htwo, hthree⟩, t, warnings', hrun', hread, by omega⟩

end Session
end DexQuery
