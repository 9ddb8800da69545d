import DexQuery.Engine.Snapshot
import DexQuery.Proofs.Answer.Failure
import DexQuery.Proofs.Descriptor.FieldCodec
import DexQuery.Proofs.Operation.Subject

/-!
# What an export knows

An export declares its types and, for each raw name, the methods and fields of the entry that is
found under it. Entries may share a raw name and members a signature; what is declared is found all
the same, be it in another entry or as another member (`Export.Artifact.Declares.known`).

If the names in an export are such that the descriptor grammar can carry them, then the descriptor
of what it declares is read as that (`Export.Artifact.Declares.readFrom`). And a request about
something that the export knows is answered (`Session.runOn_of_known`).
-/

namespace DexQuery
namespace Export

/-- The type and its members have names that the descriptor grammar can carry. -/
structure Entry.WellNamed (e : Entry) : Prop where
  type : (TypeId.mk e.summary.rawName).WellFormed
  methods : ∀ m ∈ e.methods, (m.model.id ⟨e.summary.rawName⟩).WellFormed
  fields : ∀ f ∈ e.fields, (f.model.id ⟨e.summary.rawName⟩).WellFormed

instance (e : Entry) : Decidable e.WellNamed :=
  decidable_of_iff ((TypeId.mk e.summary.rawName).WellFormed ∧
      (∀ m ∈ e.methods, (m.model.id ⟨e.summary.rawName⟩).WellFormed) ∧
        ∀ f ∈ e.fields, (f.model.id ⟨e.summary.rawName⟩).WellFormed)
    ⟨fun ⟨ht, hm, hf⟩ => ⟨ht, hm, hf⟩, fun h => ⟨h.type, h.methods, h.fields⟩⟩

namespace Artifact

/-- All types of the export and their members have names that the descriptor grammar can carry. -/
def WellNamed (a : Artifact) : Prop := ∀ e ∈ a.types, e.WellNamed

instance (a : Artifact) : Decidable a.WellNamed :=
  inferInstanceAs (Decidable (∀ e ∈ a.types, e.WellNamed))

/-- The export declares the entity: a type, or a member of the type that is found under the raw name
of its owner. -/
inductive Declares (a : Artifact) : EntityId → Prop where
  | type {e : Entry} (he : e ∈ a.types) : Declares a (.type ⟨e.summary.rawName⟩)
  | method {t : TypeId} {e : Entry} {m : Method} (he : a.entry? t.raw = some e)
      (hm : m ∈ e.methods) : Declares a (.method (m.model.id t))
  | field {t : TypeId} {e : Entry} {f : Field} (he : a.entry? t.raw = some e)
      (hf : f ∈ e.fields) : Declares a (.field (f.model.id t))

/-- The engine of the export finds the entity. -/
def Knows (a : Artifact) : EntityId → Prop
  | .type t => (a.entry? t.raw).isSome
  | .method m => (a.method? m).isSome
  | .field f => (a.field? f).isSome

variable {a : Artifact} {t : TypeId} {e : Entry} {x : EntityId}

theorem of_entry? (h : a.entry? t.raw = some e) : e ∈ a.types ∧ t = ⟨e.summary.rawName⟩ := by
  unfold entry? at h
  have hname := List.find?_some h
  exact ⟨List.mem_reverse.1 (List.mem_of_find?_eq_some h), by rw [eq_of_beq hname]⟩

/-- What is declared is found. -/
theorem Declares.known (h : a.Declares x) : a.Knows x := by
  cases h with
  | type he => exact List.find?_isSome.2 ⟨_, List.mem_reverse.2 he, beq_self_eq_true _⟩
  | @method t e m he hm =>
    have hfind : (e.methods.find? fun m' => m'.model.isCalled (m.model.id t)).isSome :=
      List.find?_isSome.2 ⟨m, hm, by simp [MethodModel.isCalled, MethodModel.id]⟩
    have howner : a.entry? (m.model.id t).owner.raw = some e := he
    simpa only [Knows, method?, howner, Option.bind_some] using hfind
  | @field t e f he hf =>
    have hfind : (e.fields.find? fun f' =>
        f'.model.name == (f.model.id t).name && f'.model.type == (f.model.id t).type).isSome :=
      List.find?_isSome.2 ⟨f, hf, by simp [FieldModel.id]⟩
    have howner : a.entry? (f.model.id t).owner.raw = some e := he
    simpa only [Knows, field?, howner, Option.bind_some] using hfind

/-- The descriptor of what is declared is read as that. -/
theorem Declares.readFrom (ha : a.WellNamed) (h : a.Declares x) : x.ReadFrom x.text := by
  cases h with
  | type he => exact TypeId.read_eq_ok_iff.2 ⟨(ha _ he).type, rfl⟩
  | method he hm =>
    obtain ⟨hmem, rfl⟩ := of_entry? he
    exact ((ha _ hmem).methods _ hm).read_text
  | field he hf =>
    obtain ⟨hmem, rfl⟩ := of_entry? he
    exact ((ha _ hmem).fields _ hf).read_text

end Artifact
end Export

/-- The answer is not broken off. -/
def Answered {α : Type} (x : Except Abort α) : Prop := ∃ y, x = .ok y

namespace Answered

variable {α β : Type}

theorem ok (x : α) : Answered (.ok x : Except Abort α) := ⟨x, rfl⟩

theorem ne_error {x : Except Abort α} (h : Answered x) (a : Abort) : x ≠ .error a := by
  obtain ⟨y, rfl⟩ := h
  exact nofun

theorem bind {x : Except Abort α} {f : α → Except Abort β} (hx : Answered x)
    (hf : ∀ y, Answered (f y)) : Answered (x >>= f) := by
  obtain ⟨y, rfl⟩ := hx
  exact hf y

/-- What an export knows, its engine answers. -/
theorem askKnown {o : Option α} (h : o.isSome) (missing : Failure) (f : α → β) :
    Answered (DexQuery.askKnown missing (.ok (o.map f))) := by
  obtain ⟨z, rfl⟩ := Option.isSome_iff_exists.1 h
  exact ok (f z)

end Answered

namespace Session

variable {s : Session} {rows : List (String × Label)} {a : Export.Artifact} {t : TypeId}
  {m : MethodId} (files : Files.Tree)

/-- The engine of an export never fails to say whether there is a unit text. -/
theorem unitText_answered (b : Bucket) : Answered (s.unitText a.engine b t files).1 := by
  have hask : Answered (ask (a.engine.unitText b t)) := by
    cases b <;> exact .ok _
  unfold unitText
  split
  · exact .ok _
  · split
    · rename_i f hf
      exact absurd hf (hask.ne_error f)
    · exact .ok _
    · exact .ok _

theorem decompileClass_answered (h : a.Knows (.type t)) :
    Answered (s.decompileClass a.engine t files).1 := by
  unfold decompileClass
  split
  · rename_i f files' hunit
    exact absurd (congrArg Prod.fst hunit) ((unitText_answered files .source).ne_error f)
  · split
    · exact .ok _
    · split
      · rename_i f hf
        exact absurd hf ((Answered.askKnown h _ _).ne_error f)
      · exact .ok _

theorem methodSource_answered (span : Source.Span) :
    Answered (s.methodSource a.engine m span files).1 := by
  unfold methodSource
  split
  · exact .ok _
  · split
    · rename_i f files' hunit
      exact absurd (congrArg Prod.fst hunit) ((unitText_answered files .source).ne_error f)
    · exact .ok _

theorem decompileMethod_answered (h : a.Knows (.method m)) :
    Answered (s.decompileMethod a.engine m files).1 := by
  unfold decompileMethod
  split
  · rename_i f hf
    exact absurd hf ((Answered.askKnown h _ _).ne_error f)
  · split
    · rename_i f files₁ hsource
      exact absurd (congrArg Prod.fst hsource) ((methodSource_answered files _).ne_error f)
    · split
      · rename_i f files₂ hunit
        exact absurd (congrArg Prod.fst hunit) ((unitText_answered _ .disasm).ne_error f)
      · exact .ok _

theorem annotations_answered {x : EntityId} (h : a.Knows x) :
    Answered (s.annotations a.engine x) := by
  refine Answered.bind ?_ fun _ => .ok _
  cases x with
  | type t => exact (Answered.askKnown h _ _).bind fun _ => .ok _
  | method m => exact Answered.askKnown h _ _
  | field f => exact (Answered.askKnown h _ _).bind fun _ => .ok _

/-- **A request about something that an export knows is answered.** -/
theorem runOn_of_known {r : Request} {x : EntityId} (hrows : s.aliases.rows = .ok rows)
    (hr : r.about? = some x) (h : a.Knows x) : Answered (s.runOn a.engine files r).answer := by
  cases r with
  | hierarchy t =>
    obtain rfl := Option.some.inj hr
    exact (Answered.askKnown h _ _).bind fun _ => (Answered.ok _).bind fun _ => .ok _
  | dependencies t | listMethodsDetail t | classXrefs t =>
    obtain rfl := Option.some.inj hr
    exact (Answered.askKnown h _ _).bind fun _ => .ok _
  | listMethods t =>
    obtain rfl := Option.some.inj hr
    simp only [runOn, Result.pure, listMethods, labels_eq_ok hrows]
    exact (Answered.askKnown h _ _).bind fun _ => .ok _
  | listFields t =>
    obtain rfl := Option.some.inj hr
    simp only [runOn, Result.pure, listFields, labels_eq_ok hrows]
    exact (Answered.askKnown h _ _).bind fun _ => .ok _
  | annotations target =>
    obtain rfl := Option.some.inj hr
    exact annotations_answered h
  | decompileClass t =>
    obtain rfl := Option.some.inj hr
    exact decompileClass_answered files h
  | decompileMethod m =>
    obtain rfl := Option.some.inj hr
    exact decompileMethod_answered files h
  | xrefsTo m | xrefsFrom m | overrides m | unresolved m =>
    obtain rfl := Option.some.inj hr
    exact (Answered.askKnown h _ _).bind fun _ => .ok _
  | fieldXrefs f =>
    obtain rfl := Option.some.inj hr
    exact (Answered.askKnown h _ _).bind fun _ => .ok _
  | _ => cases hr

end Session
end DexQuery
