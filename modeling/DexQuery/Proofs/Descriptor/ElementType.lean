import DexQuery.Descriptor.TypeList

/-!
# The grammar of element types

`IsElement` is the grammar that `TypeList.element?` reads: a number of `[`, then a primitive code or
a name between `L` and `;`. Reading an element type takes one such text from the front
(`element?_eq_ok_iff`), and since none of them is a proper beginning of another, a text is a list
of element types in at most one way, which is the one that `elements` finds (`elements_eq_ok_iff`).
-/

namespace DexQuery
namespace TypeList

/-- An element type that is no array: a primitive code, or a name between `L` and `;`. -/
inductive IsScalar : List Char → Prop where
  | primitive {c : Char} (h : c ∈ primitiveCodes) : IsScalar [c]
  | object {name : List Char} (hne : name ≠ []) (hname : ';' ∉ name) :
      IsScalar ('L' :: name ++ [';'])

/-- An element type: a number of `[` followed by a type that is no array. -/
def IsElement (t : List Char) : Prop :=
  ∃ k scalar, IsScalar scalar ∧ t = List.replicate k '[' ++ scalar

theorem IsScalar.isElement {t : List Char} (h : IsScalar t) : IsElement t :=
  ⟨0, t, h, by simp⟩

theorem IsElement.array {t : List Char} (h : IsElement t) : IsElement ('[' :: t) := by
  obtain ⟨k, scalar, hs, rfl⟩ := h
  exact ⟨k + 1, scalar, hs, by rw [List.replicate_succ, List.cons_append]⟩

theorem IsElement.ne_nil {t : List Char} (h : IsElement t) : t ≠ [] := by
  obtain ⟨k, scalar, hs, rfl⟩ := h
  cases hs <;> simp

/-- What is read as an element type is one. -/
theorem isElement_of_element? {cs t rest : List Char} (h : element? cs = .ok (t, rest)) :
    IsElement t := by
  induction cs generalizing t with
  | nil => simp [element?] at h
  | cons c r ih =>
    unfold element? at h
    split at h
    · rename_i hc
      split at h
      · rename_i t' rest' ht
        obtain ⟨rfl, rfl⟩ := Prod.mk.inj (Except.ok.inj h)
        exact hc ▸ (ih ht).array
      · simp at h
    · split at h
      · rename_i hc
        split at h
        · simp at h
        · simp at h
        · rename_i name rest' hne hs
          obtain ⟨rfl, rfl⟩ := Prod.mk.inj (Except.ok.inj h)
          have hname := (Text.splitFirst?_eq_some_iff.1 hs).2
          exact hc ▸ (IsScalar.object hne hname).isElement
      · split at h
        · rename_i hc
          obtain ⟨rfl, rfl⟩ := Prod.mk.inj (Except.ok.inj h)
          exact (IsScalar.primitive hc).isElement
        · simp at h

theorem element?_scalar_append {t : List Char} (h : IsScalar t) (rest : List Char) :
    element? (t ++ rest) = .ok (t, rest) := by
  cases h with
  | @primitive c hc =>
    have hb : c ≠ '[' := by rintro rfl; revert hc; decide
    have hl : c ≠ 'L' := by rintro rfl; revert hc; decide
    simp [element?, hb, hl, hc]
  | @object name hne hname =>
    have hs : Text.splitFirst? ';' (name ++ ';' :: rest) = some (name, rest) :=
      Text.splitFirst?_eq_some_iff.2 ⟨rfl, hname⟩
    cases name with
    | nil => exact absurd rfl hne
    | cons a name => simp_all [element?]

/-- An element type is read from the front of every text that begins with it. -/
theorem element?_append {t : List Char} (h : IsElement t) (rest : List Char) :
    element? (t ++ rest) = .ok (t, rest) := by
  obtain ⟨k, scalar, hs, rfl⟩ := h
  induction k with
  | zero => simpa using element?_scalar_append hs rest
  | succ k ih =>
    rw [List.replicate_succ, List.cons_append, List.cons_append, element?, ih]
    simp

theorem element?_eq_ok_iff {cs t rest : List Char} :
    element? cs = .ok (t, rest) ↔ cs = t ++ rest ∧ IsElement t := by
  constructor
  · intro h
    exact ⟨(append_of_element? h).1.symm, isElement_of_element? h⟩
  · rintro ⟨rfl, ht⟩
    exact element?_append ht rest

/-- **A text lists element types in one way.** `elements` succeeds exactly on the texts that are
made of element types, with the types that the text is made of. -/
theorem elements_eq_ok_iff {cs : List Char} {ts : List (List Char)} :
    elements cs = .ok ts ↔ ts.flatten = cs ∧ ∀ t ∈ ts, IsElement t := by
  constructor
  · intro h
    fun_induction elements cs generalizing ts with
    | case1 => simp_all
    | case2 => simp at h
    | case3 => simp at h
    | case4 c r t rest hread ts' hrest ih =>
      obtain rfl := Except.ok.inj h
      obtain ⟨hcs, ht⟩ := element?_eq_ok_iff.1 hread
      obtain ⟨hflat, hts⟩ := ih hrest
      refine ⟨by rw [List.flatten_cons, hflat, hcs], fun u hu => ?_⟩
      rcases List.mem_cons.1 hu with rfl | hu
      · exact ht
      · exact hts u hu
  · rintro ⟨rfl, h⟩
    induction ts with
    | nil => simp [elements]
    | cons t ts ih =>
      have ht : IsElement t := h t (List.mem_cons_self ..)
      have hts := ih fun u hu => h u (List.mem_cons_of_mem _ hu)
      have hread : element? (t ++ ts.flatten) = .ok (t, ts.flatten) := element?_append ht _
      rw [List.flatten_cons]
      unfold elements
      split
      · rename_i hnil
        exact absurd (List.append_eq_nil_iff.1 hnil).1 ht.ne_nil
      · rename_i c r hcons
        rw [← hcons]
        split
        · rename_i e he
          rw [hread] at he
          simp at he
        · rename_i t' rest' he
          rw [hread] at he
          obtain ⟨rfl, rfl⟩ := Prod.mk.inj (Except.ok.inj he)
          rw [hts]

end TypeList
end DexQuery
