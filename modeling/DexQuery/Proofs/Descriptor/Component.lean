import DexQuery.Proofs.Descriptor.EntityCodec

/-!
# The types in a descriptor

The descriptor of a member holds the types of its parameters and of its result, or the type of a
field. The grammar asks two things of each of them: without the brackets of an array it is a
primitive code or the descriptor of a type (`IsTypeText`), and the code for void stands for a whole
result only (`Role.VoidWhole`).

The readers ask for an element type, and for more than a bare void where no result stands
(`EntityId.ReadFrom.component`). This lets two kinds of types through. The name of a class in an
element type may hold an arrow, as the name of a type that is read by itself may not, and an array
may have void for its elements. Every other type that is read is as the grammar asks
(`EntityId.typeText_iff_and_voidWhole_iff`).
-/

namespace DexQuery

/-! ## Types without brackets -/

namespace TypeList

/-- A type without the brackets of an array. -/
def scalar (t : String) : String := String.ofList (t.toList.dropWhile (· == '['))

/-- The type is an array, of one dimension or more, with void for its elements. -/
def IsVoidArray (t : String) : Prop := ∃ k, t.toList = List.replicate (k + 1) '[' ++ ['V']

/-- A type that is no array is what is left of the arrays of it without their brackets. -/
theorem IsScalar.dropWhile_brackets {cs : List Char} (h : IsScalar cs) (k : Nat) :
    (List.replicate k '[' ++ cs).dropWhile (· == '[') = cs := by
  induction k with
  | zero =>
    cases h with
    | @primitive c hc =>
      have hne : c ≠ '[' := by
        rintro rfl
        revert hc
        decide
      simp [hne]
    | object hne hname => rfl
  | succ k ih => simpa [List.replicate_succ] using ih

theorem IsScalar.toList_scalar {t : String} {cs : List Char} (h : IsScalar cs) {k : Nat}
    (ht : t.toList = List.replicate k '[' ++ cs) : (scalar t).toList = cs := by
  rw [scalar, String.toList_ofList, ht, h.dropWhile_brackets]

end TypeList

open TypeList

/-- The text is a primitive code or the descriptor of a type. -/
def IsTypeText (s : String) : Prop :=
  (∃ c ∈ primitiveCodes, s = String.ofList [c]) ∨ ∃ t, TypeId.read s = .ok t

/-- A name between `L` and `;` is the descriptor of a type unless it holds an arrow. -/
theorem isTypeText_object_iff {s : String} {name : List Char} (hne : name ≠ []) (hname : ';' ∉ name)
    (hs : s.toList = 'L' :: name ++ [';']) : IsTypeText s ↔ ¬ ['-', '>'] <:+: name := by
  constructor
  · rintro (⟨c, -, rfl⟩ | ⟨t, ht⟩)
    · rw [String.toList_ofList] at hs
      simp at hs
    · obtain ⟨hwf, rfl⟩ := TypeId.read_eq_ok_iff.1 ht
      rw [TypeId.toList_text] at hs
      obtain rfl : t.raw.toList = name := by simpa using hs
      exact hwf.no_arrow
  · intro harrow
    refine .inr ⟨⟨String.ofList name⟩, TypeId.read_eq_ok_iff.2 ⟨⟨?_, ?_, ?_⟩, ?_⟩⟩
    · simpa [← String.toList_inj] using hne
    · simpa using hname
    · simpa using harrow
    · rw [← String.toList_inj, TypeId.toList_text, String.toList_ofList, hs]

/-- Brackets in front are no part of an arrow either. -/
theorem arrow_infix_object_iff {k : Nat} {name : List Char} :
    ['-', '>'] <:+: List.replicate k '[' ++ ('L' :: name ++ [';']) ↔ ['-', '>'] <:+: name := by
  induction k with
  | zero => exact TypeId.arrow_infix_iff
  | succ k ih =>
    rw [List.replicate_succ, List.cons_append, List.infix_cons_iff]
    refine (or_iff_right ?_).trans ih
    simp

/-! ## Roles of types -/

/-- What a type is in the descriptor of a member. -/
inductive Role where
  | parameter
  | result
  | field
deriving DecidableEq

/-- If the type is void or an array of it, it is void and a result. -/
def Role.VoidWhole (role : Role) (t : String) : Prop := scalar t = "V" → t = "V" ∧ role = .result

namespace EntityId

/-- The types that the descriptor of an entity holds, with their roles. -/
def components : EntityId → List (Role × String)
  | .type _ => []
  | .method m => m.params.map (fun t => (.parameter, t)) ++ [(.result, m.ret)]
  | .field f => [(.field, f.type)]

variable {s t : String} {x : EntityId} {role : Role}

/-- Each type in a descriptor is an element type, and a bare void is a result. -/
theorem ReadFrom.component (h : x.ReadFrom s) (ht : (role, t) ∈ x.components) :
    IsElement t.toList ∧ (t = "V" → role = .result) := by
  cases x with
  | type t => cases ht
  | method m =>
    have hwf := (MethodId.wellFormed_of_read h).1
    rcases List.mem_append.1 ht with hparam | hret
    · obtain ⟨u, hu, heq⟩ := List.mem_map.1 hparam
      obtain ⟨rfl, rfl⟩ := Prod.mk.inj heq
      exact ⟨(hwf.params u hu).1, fun hvoid => absurd hvoid (hwf.params u hu).2.1⟩
    · obtain ⟨rfl, rfl⟩ := Prod.mk.inj (List.mem_singleton.1 hret)
      exact ⟨hwf.ret, fun _ => rfl⟩
  | field f =>
    have hwf := (FieldId.wellFormed_of_read h).1
    obtain ⟨rfl, rfl⟩ := Prod.mk.inj (List.mem_singleton.1 ht)
    exact ⟨hwf.type, fun hvoid => absurd hvoid hwf.not_void⟩

theorem isTypeText_iff_of_isElement (h : IsElement t.toList) :
    IsTypeText (scalar t) ↔ ¬ "->".toList <:+: t.toList := by
  obtain ⟨k, cs, hcs, ht⟩ := h
  have hscalar := hcs.toList_scalar ht
  cases hcs with
  | @primitive c hc =>
    have hcode : IsTypeText (scalar t) :=
      .inl ⟨c, hc, by rw [← String.toList_inj, hscalar, String.toList_ofList]⟩
    refine ⟨fun _ harrow => ?_, fun _ => hcode⟩
    -- All characters but the last are brackets, and the last is a code.
    have hmem : '-' ∈ t.toList := harrow.subset (List.mem_cons_self ..)
    rw [ht, List.mem_append] at hmem
    rcases hmem with hmem | hmem
    · cases List.eq_of_mem_replicate hmem
    · obtain rfl := List.mem_singleton.1 hmem
      revert hc
      decide
  | @object name hne hname =>
    rw [isTypeText_object_iff hne hname hscalar, ht]
    exact not_congr arrow_infix_object_iff.symm

theorem voidWhole_iff_of_isElement (h : IsElement t.toList) (hbare : t = "V" → role = .result) :
    role.VoidWhole t ↔ ¬ IsVoidArray t := by
  have hV : "V".toList = ['V'] := rfl
  obtain ⟨k, cs, hcs, ht⟩ := h
  have hscalar := hcs.toList_scalar ht
  constructor
  · rintro hwhole ⟨j, hj⟩
    have hcode : IsScalar ['V'] := .primitive (by decide)
    have hvoid : scalar t = "V" := by
      rw [← String.toList_inj, hcode.toList_scalar hj]
      rfl
    have hlength := congrArg List.length hj
    rw [(hwhole hvoid).1] at hlength
    simp at hlength
  · intro hnot hvoid
    rw [hvoid, hV] at hscalar
    subst hscalar
    cases k with
    | zero =>
      obtain rfl : t = "V" := by rw [← String.toList_inj, ht]; rfl
      exact ⟨rfl, hbare rfl⟩
    | succ k => exact absurd ⟨k, ht⟩ hnot

/-- **The types in a descriptor that is read.** Without its brackets such a type is a primitive code
or the descriptor of a type if and only if it holds no arrow, and void stands in it as a whole
result at most if and only if it is no array of void. -/
theorem typeText_iff_and_voidWhole_iff (h : x.ReadFrom s) (ht : (role, t) ∈ x.components) :
    (IsTypeText (scalar t) ↔ ¬ "->".toList <:+: t.toList) ∧
      (role.VoidWhole t ↔ ¬ IsVoidArray t) := by
  obtain ⟨helement, hbare⟩ := h.component ht
  exact ⟨isTypeText_iff_of_isElement helement, voidWhole_iff_of_isElement helement hbare⟩

/-- A parameter that is an array of a class is as the grammar asks. -/
theorem typeText_and_voidWhole_sample :
    ReadFrom "La;->m(I[Lb;)V" (.method ⟨⟨"a"⟩, "m", ["I", "[Lb;"], "V"⟩) ∧
      (.parameter, "[Lb;") ∈ components (.method ⟨⟨"a"⟩, "m", ["I", "[Lb;"], "V"⟩) ∧
      IsTypeText (scalar "[Lb;") ∧ Role.parameter.VoidWhole "[Lb;" := by
  have hread : ReadFrom "La;->m(I[Lb;)V" (.method ⟨⟨"a"⟩, "m", ["I", "[Lb;"], "V"⟩) := by
    show MethodId.read "La;->m(I[Lb;)V" = .ok ⟨⟨"a"⟩, "m", ["I", "[Lb;"], "V"⟩
    decide +kernel
  have hmem : (.parameter, "[Lb;") ∈ components (.method ⟨⟨"a"⟩, "m", ["I", "[Lb;"], "V"⟩) := by
    decide
  obtain ⟨htext, hvoid⟩ := typeText_iff_and_voidWhole_iff hread hmem
  refine ⟨hread, hmem, htext.2 (by decide), hvoid.2 ?_⟩
  rintro ⟨k, hk⟩
  have hlast := congrArg List.getLast? hk
  simp at hlast

/-- **A type in a descriptor need not be as the grammar asks.** The type of the first field is an
array of void, and the name of the class of the second holds an arrow. -/
theorem not_typeText_or_not_voidWhole :
    (FieldId.read "La;->f:[V" = .ok ⟨⟨"a"⟩, "f", "[V"⟩ ∧ ¬ Role.field.VoidWhole "[V") ∧
      FieldId.read "La;->f:Lx->y;" = .ok ⟨⟨"a"⟩, "f", "Lx->y;"⟩ ∧
      ¬ IsTypeText (scalar "Lx->y;") := by
  refine ⟨⟨by decide +kernel, fun h => ?_⟩, by decide +kernel, ?_⟩
  · exact absurd (h rfl).1 (by decide)
  · rintro (⟨c, -, hc⟩ | ⟨t, ht⟩)
    · have hlength := congrArg (fun s : String => s.toList.length) hc
      simp [scalar] at hlength
    · have hrefused : TypeId.read (scalar "Lx->y;") = .error ⟨"Lx->y;", .strayCharacter⟩ := by
        decide +kernel
      cases hrefused.symm.trans ht

end EntityId
end DexQuery
