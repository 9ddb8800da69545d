import DexQuery.Proofs.Descriptor.MethodCodec

/-!
# Field descriptors are read exactly as they are written

A field identifier is well formed when its owner is, its name is a text without `:` and its type is
one element type other than void. The name is cut off at the first `:`, so that the type may hold
more of them.

As for methods, reading accepts the descriptors of well-formed fields and no others
(`FieldId.wellFormed_of_read`, `FieldId.WellFormed.read_text`), so that being well formed can be
decided by reading. `FieldId.read_iff_written` puts the two directions together, for fields and for
types.
-/

namespace DexQuery
namespace FieldId

/-- A field that the descriptor grammar can carry. -/
structure WellFormed (f : FieldId) : Prop where
  owner : f.owner.WellFormed
  name_ne : f.name ≠ ""
  no_colon : ':' ∉ f.name.toList
  type : TypeList.IsElement f.type.toList
  not_void : f.type ≠ "V"

/-- What follows the arrow is read as a name and a type exactly when it is the two with a `:`
between them. -/
theorem signature_eq_ok_iff {member name type : List Char} :
    signature member = .ok (name, type) ↔
      member = name ++ ':' :: type ∧ name ≠ [] ∧ ':' ∉ name ∧ TypeList.IsElement type ∧
        type ≠ ['V'] := by
  constructor
  · intro h
    unfold signature at h
    split at h
    · cases h
    · rename_i name' type' hcolon
      split at h
      · cases h
      · rename_i hne
        split at h
        · cases h
        · rename_i t hts
          split at h
          · cases h
          · rename_i hvoid
            obtain ⟨rfl, rfl⟩ := Prod.mk.inj (Except.ok.inj h)
            obtain ⟨hmember, hno⟩ := Text.splitFirst?_eq_some_iff.1 hcolon
            obtain ⟨hflat, helem⟩ := TypeList.elements_eq_ok_iff.1 hts
            obtain rfl : t = type' := by simpa using hflat
            exact ⟨hmember, hne, hno, helem t (List.mem_singleton.2 rfl), hvoid⟩
        · cases h
  · rintro ⟨rfl, hne, hno, htype, hvoid⟩
    have hcolon : Text.splitFirst? ':' (name ++ ':' :: type) = some (name, type) :=
      Text.splitFirst?_eq_some_iff.2 ⟨rfl, hno⟩
    have hts : TypeList.elements type = .ok [type] := by
      refine TypeList.elements_eq_ok_iff.2 ⟨by simp, fun t ht => ?_⟩
      rw [List.mem_singleton.1 ht]
      exact htype
    simp only [signature, hcolon, hne, hts, hvoid, if_false]

theorem toList_text (f : FieldId) : f.text.toList =
    f.owner.text.toList ++ '-' :: '>' :: (f.name.toList ++ ':' :: f.type.toList) := by
  simp [text]

/-- Reading a field is reading its owner and reading its signature. -/
theorem read_eq_ok_iff_parts {s : String} {f : FieldId} :
    read s = .ok f ↔ ∃ member, readOwner s = .ok (f.owner, member) ∧
      signature member = .ok (f.name.toList, f.type.toList) := by
  constructor
  · intro h
    unfold read at h
    split at h
    · cases h
    · rename_i owner member howner
      split at h
      · rename_i name type hsig
        obtain rfl := Except.ok.inj h
        exact ⟨member, howner, by simpa only [String.toList_ofList] using hsig⟩
      · cases h
  · rintro ⟨member, howner, hsig⟩
    simp only [read, howner, hsig, String.ofList_toList]

/-- The parts of a well-formed field as `signature` asks for them. -/
theorem wellFormed_iff {f : FieldId} : f.WellFormed ↔ f.owner.WellFormed ∧
    f.name.toList ≠ [] ∧ ':' ∉ f.name.toList ∧ TypeList.IsElement f.type.toList ∧
      f.type.toList ≠ ['V'] := by
  have hV : f.type.toList ≠ ['V'] ↔ f.type ≠ "V" := by
    rw [ne_eq, ne_eq, ← String.toList_inj]
    rfl
  rw [hV, ne_eq, String.toList_eq_nil_iff]
  constructor
  · rintro ⟨h1, h2, h3, h4, h5⟩
    exact ⟨h1, h2, h3, h4, h5⟩
  · rintro ⟨h1, h2, h3, h4, h5⟩
    exact ⟨h1, h2, h3, h4, h5⟩

/-- What is read as a field is well formed and has the text as its descriptor. -/
theorem wellFormed_of_read {s : String} {f : FieldId} (h : read s = .ok f) :
    f.WellFormed ∧ f.text = s := by
  obtain ⟨member, howner, hsig⟩ := read_eq_ok_iff_parts.1 h
  obtain ⟨hwf, hs⟩ := readOwner_eq_ok_iff.1 howner
  obtain ⟨rfl, hparts⟩ := signature_eq_ok_iff.1 hsig
  refine ⟨wellFormed_iff.2 ⟨hwf, hparts⟩, ?_⟩
  rw [← String.toList_inj, toList_text, hs]

/-- The descriptor of a well-formed field is read as that field. -/
theorem WellFormed.read_text {f : FieldId} (h : f.WellFormed) : read f.text = .ok f := by
  obtain ⟨hwf, hparts⟩ := wellFormed_iff.1 h
  exact read_eq_ok_iff_parts.2
    ⟨_, readOwner_eq_ok_iff.2 ⟨hwf, toList_text f⟩, signature_eq_ok_iff.2 ⟨rfl, hparts⟩⟩

instance (f : FieldId) : Decidable f.WellFormed :=
  decidable_of_iff (read f.text = .ok f)
    ⟨fun h => (wellFormed_of_read h).1, WellFormed.read_text⟩

/-- **Field and type descriptors are read exactly as they are written.** A text is read as the field
`f` if and only if `f` is well formed and its descriptor is that text, and the same holds of
types. -/
theorem read_iff_written (s : String) :
    (∀ f, read s = .ok f ↔ f.WellFormed ∧ f.text = s) ∧
      ∀ t, TypeId.read s = .ok t ↔ t.WellFormed ∧ t.text = s := by
  refine ⟨fun f => ⟨wellFormed_of_read, ?_⟩, fun _ => TypeId.read_eq_ok_iff⟩
  rintro ⟨hwf, rfl⟩
  exact hwf.read_text

end FieldId
end DexQuery
