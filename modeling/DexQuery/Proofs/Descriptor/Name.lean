import DexQuery.Descriptor.Name
import DexQuery.Proofs.Descriptor.MethodCodec

/-!
# Spellings of a name undo each other

The name of a type is spelt as a raw name, as a descriptor or as a dotted name, and the conversions
between the spellings accept any text. From a raw name to its descriptor nothing is lost, whatever
the raw name is (`Name.rawOfDescriptor_descriptorOfRaw`); the way back leaves a text alone that is
the descriptor of no raw name (`Name.rawOfDescriptor_of_forall_ne`). Between dotted names and
descriptors one character stands for another, so the way there and back gives a text again unless it
holds the other character already (`Text.replaceChar_replaceChar_eq_self_iff`).
-/

namespace DexQuery

/-! ## One character for another -/

namespace Text

variable {old new : Char} {s : String}

theorem toList_replaceChar (old new : Char) (s : String) :
    (replaceChar old new s).toList = s.toList.map fun c => if c = old then new else c := by
  rw [replaceChar, String.toList_ofList]

/-- Nothing is replaced exactly where there is nothing to replace. -/
theorem replaceChar_eq_self_iff (hne : old ≠ new) :
    replaceChar old new s = s ↔ old ∉ s.toList := by
  have hfixed : ∀ c : Char, (if c = old then new else c) = c ↔ c ≠ old := by
    intro c
    split
    · rename_i hc
      exact iff_of_false (fun hnew => hne (hc.symm.trans hnew.symm)) (not_not_intro hc)
    · rename_i hc
      exact iff_of_true rfl hc
  have hmap : (s.toList.map fun c => if c = old then new else c) = s.toList ↔
      ∀ c ∈ s.toList, c ≠ old := by
    simpa only [List.map_id, id_eq, hfixed] using
      List.map_inj_left (l := s.toList) (f := fun c => if c = old then new else c) (g := id)
  rw [← String.toList_inj, toList_replaceChar, hmap]
  exact ⟨fun h hold => h old hold rfl, fun h c hc heq => h (heq ▸ hc)⟩

/-- Replacing a character first makes no difference to replacing by it. -/
theorem replaceChar_replaceChar (old new : Char) (s : String) :
    replaceChar new old (replaceChar old new s) = replaceChar new old s := by
  rw [← String.toList_inj, toList_replaceChar, toList_replaceChar, toList_replaceChar,
    List.map_map]
  refine List.map_congr_left fun c _ => ?_
  rw [Function.comp_apply]
  split
  · rename_i hc
    subst hc
    simp
  · rfl

/-- Replacing back gives the text again exactly if the new character was not in it. -/
theorem replaceChar_replaceChar_eq_self_iff (hne : old ≠ new) :
    replaceChar new old (replaceChar old new s) = s ↔ new ∉ s.toList := by
  rw [replaceChar_replaceChar, replaceChar_eq_self_iff hne.symm]

end Text

/-! ## Raw names and descriptors -/

namespace Name

theorem toList_descriptorOfRaw (raw : String) :
    (descriptorOfRaw raw).toList = 'L' :: raw.toList ++ [';'] := TypeId.toList_text ⟨raw⟩

theorem rawOfDescriptor_descriptorOfRaw (raw : String) :
    rawOfDescriptor (descriptorOfRaw raw) = raw := by
  rw [← String.toList_inj, rawOfDescriptor, String.toList_ofList, toList_descriptorOfRaw]
  simp [stripDescriptor]

/-- A text that is the descriptor of no raw name counts as a raw name. -/
theorem rawOfDescriptor_of_forall_ne {s : String} (h : ∀ raw, s ≠ descriptorOfRaw raw) :
    rawOfDescriptor s = s := by
  rw [← String.toList_inj, rawOfDescriptor, String.toList_ofList]
  unfold stripDescriptor
  split
  · rename_i r hs
    refine if_neg fun hlast => ?_
    obtain ⟨raw, rfl⟩ := List.getLast?_eq_some_iff.1 hlast
    refine h (String.ofList raw) ?_
    rw [← String.toList_inj, toList_descriptorOfRaw, String.toList_ofList, hs]
    rfl
  · rfl

theorem descriptorOfRaw_of_read {s : String} {t : TypeId} (h : TypeId.read s = .ok t) :
    descriptorOfRaw t.raw = s := (TypeId.read_eq_ok_iff.1 h).2

theorem rawOfDescriptor_of_read {s : String} {t : TypeId} (h : TypeId.read s = .ok t) :
    rawOfDescriptor s = t.raw := by
  rw [← descriptorOfRaw_of_read h, rawOfDescriptor_descriptorOfRaw]

/-! ## Dotted names -/

theorem dottedOfDescriptor_descriptorOfDotted (x : String) :
    dottedOfDescriptor (descriptorOfDotted x) =
      Text.replaceChar '/' '.' (Text.replaceChar '.' '/' x) := by
  rw [dottedOfDescriptor, descriptorOfDotted, rawOfDescriptor_descriptorOfRaw]

theorem dottedOfDescriptor_of_read {s : String} {t : TypeId} (h : TypeId.read s = .ok t) :
    dottedOfDescriptor s = t.dotted := by
  rw [dottedOfDescriptor, rawOfDescriptor_of_read h]
  rfl

/-- The `L` in front and the `;` behind are no points. -/
theorem point_mem_descriptorOfRaw (raw : String) :
    '.' ∈ (descriptorOfRaw raw).toList ↔ '.' ∈ raw.toList := by
  rw [toList_descriptorOfRaw]
  simp

/-- The way from a descriptor to a dotted name and back takes points for slashes. -/
theorem descriptorOfDotted_dottedOfDescriptor_of_read {s : String} {t : TypeId}
    (h : TypeId.read s = .ok t) :
    descriptorOfDotted (dottedOfDescriptor s) = s ↔ '.' ∉ s.toList := by
  obtain rfl := descriptorOfRaw_of_read h
  have hne : ('/' : Char) ≠ '.' := by decide
  rw [point_mem_descriptorOfRaw, descriptorOfDotted, dottedOfDescriptor,
    rawOfDescriptor_descriptorOfRaw, ← Text.replaceChar_replaceChar_eq_self_iff hne]
  constructor
  · intro hsame
    have hraw := congrArg rawOfDescriptor hsame
    rwa [rawOfDescriptor_descriptorOfRaw, rawOfDescriptor_descriptorOfRaw] at hraw
  · exact congrArg descriptorOfRaw

/-- **The spellings of a name undo each other.** A raw name is what its descriptor is taken back to,
and a text that is no descriptor of a raw name is left alone. A descriptor that is read gives the
raw name and the dotted name that are read from it, and is given back by the raw name, and by the
dotted name unless it holds a point. A dotted name is given back unless it holds a slash. -/
theorem conversions_inverse :
    (∀ raw, rawOfDescriptor (descriptorOfRaw raw) = raw) ∧
      (∀ s, (∀ raw, s ≠ descriptorOfRaw raw) → rawOfDescriptor s = s) ∧
      (∀ s t, TypeId.read s = .ok t →
        rawOfDescriptor s = t.raw ∧ descriptorOfRaw (rawOfDescriptor s) = s ∧
          dottedOfDescriptor s = t.dotted ∧
          (descriptorOfDotted (dottedOfDescriptor s) = s ↔ '.' ∉ s.toList)) ∧
      ∀ x, dottedOfDescriptor (descriptorOfDotted x) = x ↔ '/' ∉ x.toList := by
  refine ⟨rawOfDescriptor_descriptorOfRaw, fun s => rawOfDescriptor_of_forall_ne,
    fun s t h => ?_, fun x => ?_⟩
  · refine ⟨rawOfDescriptor_of_read h, ?_, dottedOfDescriptor_of_read h,
      descriptorOfDotted_dottedOfDescriptor_of_read h⟩
    rw [rawOfDescriptor_of_read h, descriptorOfRaw_of_read h]
  · rw [dottedOfDescriptor_descriptorOfDotted,
      Text.replaceChar_replaceChar_eq_self_iff (by decide)]

/-- A raw name may look like a descriptor, and a text like half of one. -/
theorem conversions_inverse_sample :
    rawOfDescriptor (descriptorOfRaw "La;") = "La;" ∧ rawOfDescriptor "La" = "La" ∧
      TypeId.read "Lp/A$B;" = .ok ⟨"p/A$B"⟩ ∧ dottedOfDescriptor "Lp/A$B;" = "p.A$B" ∧
      descriptorOfDotted (dottedOfDescriptor "Lp/A$B;") = "Lp/A$B;" ∧
      dottedOfDescriptor (descriptorOfDotted "p.A$B") = "p.A$B" := by
  obtain ⟨hraw, hnone, hread, hdotted⟩ := conversions_inverse
  have hhalf : ∀ raw, "La" ≠ descriptorOfRaw raw := by
    intro raw h
    have hlast := congrArg (fun s : String => s.toList.getLast?) h
    rw [toList_descriptorOfRaw, List.getLast?_concat] at hlast
    cases hlast
  have hok : TypeId.read "Lp/A$B;" = .ok ⟨"p/A$B"⟩ := by decide +kernel
  obtain ⟨-, -, htext, hback⟩ := hread _ _ hok
  exact ⟨hraw _, hnone _ hhalf, hok, htext.trans (by decide), hback.2 (by decide),
    (hdotted _).2 (by decide)⟩

end Name
end DexQuery
