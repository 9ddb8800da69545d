import DexQuery.Proofs.Descriptor.FieldCodec

/-!
# Reading descriptors of any kind

A text may be the descriptor of a type, a method or a field, and a reader that is not told which has
to choose. What it reads a text as has that text as its descriptor (`EntityId.text_of_read`), by the
codecs of the three kinds.

It chooses by the arrow and by a `(` behind it. The descriptor of a type has no arrow
(`TypeId.splitArrow?_of_read`) and that of a method has both (`EntityId.read_of_method`), but the
name and the type of a field may hold a `(` as well. Such a text is read as a method, if it is read
at all (`EntityId.read_of_field`). So the kinds are told apart on the texts that are no descriptor
of a field with a `(`, and on no others (`EntityId.toldApart_iff`).
-/

namespace DexQuery

/-! ## What is behind the arrow -/

/-- The descriptor of a type has no arrow. -/
theorem TypeId.splitArrow?_of_read {s : String} {t : TypeId} (h : TypeId.read s = .ok t) :
    Text.splitArrow? s.toList = none := by
  obtain ⟨hwf, rfl⟩ := TypeId.read_eq_ok_iff.1 h
  exact hwf.splitArrow?_text

/-- The owner of a member ends at the first arrow. -/
theorem splitArrow?_of_readOwner {s : String} {t : TypeId} {member : List Char}
    (h : readOwner s = .ok (t, member)) :
    Text.splitArrow? s.toList = some (t.text.toList, member) := by
  obtain ⟨hwf, hs⟩ := readOwner_eq_ok_iff.1 h
  exact Text.splitArrow?_eq_some_iff.2 ⟨hs, hwf.splitArrow?_text⟩

/-- Behind the arrow of a method there is a `(`. -/
theorem MethodId.splitArrow?_of_read {s : String} {m : MethodId} (h : MethodId.read s = .ok m) :
    ∃ member, Text.splitArrow? s.toList = some (m.owner.text.toList, member) ∧ '(' ∈ member := by
  obtain ⟨member, howner, hsig⟩ := MethodId.read_eq_ok_iff_parts.1 h
  refine ⟨member, splitArrow?_of_readOwner howner, ?_⟩
  rw [(MethodId.signature_eq_ok_iff.1 hsig).1]
  exact List.mem_append_right _ (List.mem_cons_self ..)

namespace FieldId

/-- The field has a `(` in its name or in its type. -/
def Bracketed (f : FieldId) : Prop := '(' ∈ f.name.toList ∨ '(' ∈ f.type.toList

instance (f : FieldId) : Decidable f.Bracketed := inferInstanceAs (Decidable (_ ∨ _))

/-- Behind the arrow of a field there is a `(` if the field has one. -/
theorem splitArrow?_of_read {s : String} {f : FieldId} (h : FieldId.read s = .ok f) :
    ∃ member, Text.splitArrow? s.toList = some (f.owner.text.toList, member) ∧
      ('(' ∈ member ↔ f.Bracketed) := by
  obtain ⟨member, howner, hsig⟩ := read_eq_ok_iff_parts.1 h
  refine ⟨member, splitArrow?_of_readOwner howner, ?_⟩
  rw [(signature_eq_ok_iff.1 hsig).1, List.mem_append, List.mem_cons]
  simp [Bracketed]

end FieldId

namespace EntityId

theorem map_eq_ok_iff {α β : Type} {x : Except Malformed α} {f : α → β} {y : β} :
    x.map f = .ok y ↔ ∃ a, x = .ok a ∧ f a = y := by
  cases x <;> simp [Except.map]

/-- The reader for the kind of the entity reads the text as the entity. -/
def ReadFrom (s : String) : EntityId → Prop
  | .type t => TypeId.read s = .ok t
  | .method m => MethodId.read s = .ok m
  | .field f => FieldId.read s = .ok f

/-- The entity is a field with a `(` in its name or in its type. -/
def Bracketed : EntityId → Prop
  | .field f => f.Bracketed
  | _ => False

/-! ## What is read -/

variable {s : String} {x : EntityId}

/-- A text is read as an entity by the reader for the kind of the entity. -/
theorem readFrom_of_read (h : read s = .ok x) : x.ReadFrom s := by
  unfold read at h
  split at h
  · obtain ⟨t, ht, rfl⟩ := map_eq_ok_iff.1 h
    exact ht
  · split at h
    · obtain ⟨m, hm, rfl⟩ := map_eq_ok_iff.1 h
      exact hm
    · obtain ⟨f, hf, rfl⟩ := map_eq_ok_iff.1 h
      exact hf

theorem ReadFrom.text_eq (h : x.ReadFrom s) : x.text = s := by
  cases x with
  | type t => exact (TypeId.read_eq_ok_iff.1 h).2
  | method m => exact (MethodId.wellFormed_of_read h).2
  | field f => exact (FieldId.wellFormed_of_read h).2

/-- What a text is read as is written as that text. -/
theorem text_of_read (h : read s = .ok x) : x.text = s :=
  (readFrom_of_read h).text_eq

/-- The descriptor of what was read is read as the same again. -/
theorem read_text_of_read (h : read s = .ok x) : read x.text = .ok x := by
  rw [text_of_read h]
  exact h

theorem read_of_type {t : TypeId} (h : TypeId.read s = .ok t) : read s = .ok (.type t) := by
  simp only [read, TypeId.splitArrow?_of_read h, h]
  rfl

theorem read_of_method {m : MethodId} (h : MethodId.read s = .ok m) :
    read s = .ok (.method m) := by
  obtain ⟨member, hsplit, hopen⟩ := MethodId.splitArrow?_of_read h
  simp only [read, hsplit, hopen, if_true, h]
  rfl

/-- The descriptor of a field with a `(` is read as a method, if it is read at all. -/
theorem read_of_field {f : FieldId} (h : FieldId.read s = .ok f) :
    read s = if f.Bracketed then (MethodId.read s).map .method else .ok (.field f) := by
  obtain ⟨member, hsplit, hopen⟩ := FieldId.splitArrow?_of_read h
  simp only [read, hsplit, hopen, h]
  rfl

theorem not_bracketed_of_read (h : read s = .ok x) : ¬ x.Bracketed := by
  have hfrom := readFrom_of_read h
  cases x with
  | type t => exact id
  | method m => exact id
  | field f =>
    intro hopen
    rw [read_of_field hfrom, if_pos (show f.Bracketed from hopen)] at h
    obtain ⟨m, -, hm⟩ := map_eq_ok_iff.1 h
    cases hm

/-- A text is read as what the reader of a kind reads it as, but for fields with a `(`. -/
theorem read_eq_ok_iff_readFrom : read s = .ok x ↔ x.ReadFrom s ∧ ¬ x.Bracketed := by
  constructor
  · intro h
    exact ⟨readFrom_of_read h, not_bracketed_of_read h⟩
  · rintro ⟨hfrom, hplain⟩
    cases x with
    | type t => exact read_of_type hfrom
    | method m => exact read_of_method hfrom
    | field f =>
      rw [read_of_field hfrom]
      exact if_neg hplain

/-- The descriptor of a type is a descriptor of nothing else. -/
theorem ReadFrom.eq_type {t : TypeId} (h : x.ReadFrom s) (ht : TypeId.read s = .ok t) :
    x = .type t := by
  have hnone := TypeId.splitArrow?_of_read ht
  cases x with
  | type t' => exact congrArg _ (Except.ok.inj (h.symm.trans ht))
  | method m =>
    obtain ⟨member, hsplit, -⟩ := MethodId.splitArrow?_of_read h
    cases hnone.symm.trans hsplit
  | field f =>
    obtain ⟨member, hsplit, -⟩ := FieldId.splitArrow?_of_read h
    cases hnone.symm.trans hsplit

/-! ## Texts of one kind -/

/-- The kinds are told apart on a text: the readers of the three kinds read it as one entity at
most, and the reader of any kind reads it as that entity if there is one. -/
structure ToldApart (s : String) : Prop where
  unique : ∀ x y : EntityId, x.ReadFrom s → y.ReadFrom s → x = y
  found : ∀ x, read s = .ok x ↔ x.ReadFrom s

theorem toldApart_of_forall_not_bracketed (h : ∀ f, FieldId.read s = .ok f → ¬ f.Bracketed) :
    ToldApart s := by
  have hplain : ∀ x : EntityId, x.ReadFrom s → ¬ x.Bracketed := by
    intro x hx
    cases x with
    | field f => exact h f hx
    | _ => exact id
  have hfound : ∀ x, read s = .ok x ↔ x.ReadFrom s := fun x =>
    read_eq_ok_iff_readFrom.trans (and_iff_left_of_imp (hplain x))
  refine ⟨fun x y hx hy => ?_, hfound⟩
  exact Except.ok.inj (((hfound x).2 hx).symm.trans ((hfound y).2 hy))

/-- **Which kind a descriptor is of.** A text is read as what the reader of one kind reads it as,
unless that is a field with a `(` in its name or in its type. The descriptor of a type is never a
descriptor of another kind. And the three kinds are told apart on a text exactly if it is no
descriptor of such a field. -/
theorem toldApart_iff (s : String) :
    (∀ x, read s = .ok x ↔ x.ReadFrom s ∧ ¬ x.Bracketed) ∧
      (∀ (t : TypeId) (x : EntityId), TypeId.read s = .ok t → x.ReadFrom s → x = .type t) ∧
      (ToldApart s ↔ ∀ f, FieldId.read s = .ok f → ¬ f.Bracketed) := by
  refine ⟨fun _ => read_eq_ok_iff_readFrom, fun t x ht hx => hx.eq_type ht, fun h f hf => ?_,
    toldApart_of_forall_not_bracketed⟩
  exact not_bracketed_of_read ((h.found (.field f)).2 hf)

/-- **The kinds are not told apart on every text.** The first text is the descriptor of a field and
not read at all; the second is the descriptor of a field and of a method. -/
theorem not_toldApart_bracketed :
    (FieldId.read "La;->f:Lx(;" = .ok ⟨⟨"a"⟩, "f", "Lx(;"⟩ ∧
      EntityId.read "La;->f:Lx(;" = .error ⟨"La;->f:Lx(;", .missingParenthesis⟩ ∧
      ¬ ToldApart "La;->f:Lx(;") ∧
    FieldId.read "La;->f:Lx(I)Ly;" = .ok ⟨⟨"a"⟩, "f", "Lx(I)Ly;"⟩ ∧
      MethodId.read "La;->f:Lx(I)Ly;" = .ok ⟨⟨"a"⟩, "f:Lx", ["I"], "Ly;"⟩ ∧
      ¬ ToldApart "La;->f:Lx(I)Ly;" := by
  have hfield : FieldId.read "La;->f:Lx(;" = .ok ⟨⟨"a"⟩, "f", "Lx(;"⟩ := by decide +kernel
  have hnone : EntityId.read "La;->f:Lx(;" = .error ⟨"La;->f:Lx(;", .missingParenthesis⟩ := by
    decide +kernel
  have hfield' : FieldId.read "La;->f:Lx(I)Ly;" = .ok ⟨⟨"a"⟩, "f", "Lx(I)Ly;"⟩ := by
    decide +kernel
  have hmethod' : MethodId.read "La;->f:Lx(I)Ly;" = .ok ⟨⟨"a"⟩, "f:Lx", ["I"], "Ly;"⟩ := by
    decide +kernel
  refine ⟨⟨hfield, hnone, fun h => ?_⟩, hfield', hmethod', fun h => ?_⟩
  · cases hnone.symm.trans ((h.found (.field ⟨⟨"a"⟩, "f", "Lx(;"⟩)).2 hfield)
  · cases h.unique (.field ⟨⟨"a"⟩, "f", "Lx(I)Ly;"⟩) (.method ⟨⟨"a"⟩, "f:Lx", ["I"], "Ly;"⟩) hfield'
      hmethod'

end EntityId
end DexQuery
