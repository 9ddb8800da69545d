import DexQuery.Descriptor.Reader
import DexQuery.Proofs.Descriptor.ElementType
import Mathlib.Control.Monad.Basic

/-!
# Method descriptors are read exactly as they are written

A method identifier is well formed when its owner, its name and its types hold nothing that the
descriptor grammar uses to tell them apart. Every part is cut off at the first arrow, the first `(`
or the first `)`, so a name may hold arrows and an owner or a return type parentheses.

The readers accept the texts of well-formed identifiers and no others, and give back the
identifier that was written: `TypeId.read_eq_ok_iff` for types, `readOwner_eq_ok_iff` for what
comes before the arrow of a member, and for methods `MethodId.wellFormed_of_read` in one direction
and `MethodId.WellFormed.read_text` in the other.
-/

namespace DexQuery

/-- A raw name that the descriptor grammar can carry: not empty, without `;` and without `->`. -/
structure TypeId.WellFormed (t : TypeId) : Prop where
  raw_ne : t.raw ≠ ""
  no_semicolon : ';' ∉ t.raw.toList
  no_arrow : ¬ "->".toList <:+: t.raw.toList

/-- A method that the descriptor grammar can carry. -/
structure MethodId.WellFormed (m : MethodId) : Prop where
  owner : m.owner.WellFormed
  name_ne : m.name ≠ ""
  no_open : '(' ∉ m.name.toList
  no_close : ')' ∉ m.name.toList
  params : ∀ p ∈ m.params, TypeList.IsElement p.toList ∧ p ≠ "V" ∧ ')' ∉ p.toList
  ret : TypeList.IsElement m.ret.toList

/-! ## Owners -/

namespace TypeId

theorem toList_text (t : TypeId) : t.text.toList = 'L' :: t.raw.toList ++ [';'] := by
  simp [text]

theorem rawChars_eq_ok_iff {cs raw : List Char} :
    rawChars cs = .ok raw ↔
      cs = 'L' :: raw ++ [';'] ∧ raw ≠ [] ∧ ';' ∉ raw ∧ Text.splitArrow? raw = none := by
  constructor
  · intro h
    unfold rawChars at h
    split at h
    · rename_i r
      split at h
      · rename_i hlast
        obtain ⟨ys, rfl⟩ := List.getLast?_eq_some_iff.1 hlast
        simp only [List.dropLast_concat] at h
        split at h
        · simp at h
        · rename_i hne
          split at h
          · simp at h
          · rename_i hstray
            obtain rfl := Except.ok.inj h
            rw [not_or, Option.not_isSome_iff_eq_none] at hstray
            exact ⟨rfl, hne, hstray⟩
      · simp at h
    · simp at h
  · rintro ⟨rfl, hne, hsemi, harrow⟩
    simp [rawChars, hne, hsemi, harrow]

/-- **Type descriptors are read exactly as they are written.** -/
theorem read_eq_ok_iff {s : String} {t : TypeId} :
    read s = .ok t ↔ t.WellFormed ∧ t.text = s := by
  have hread : read s = .ok t ↔ rawChars s.toList = .ok t.raw.toList := by
    unfold read
    split
    · rename_i raw hraw
      rw [hraw, Except.ok.injEq, Except.ok.injEq]
      constructor
      · rintro rfl
        rw [String.toList_ofList]
      · rintro rfl
        rw [String.ofList_toList]
    · rename_i e he
      simp [he]
  have hne : t.raw.toList ≠ [] ↔ t.raw ≠ "" := by
    rw [ne_eq, String.toList_eq_nil_iff]
  rw [hread, rawChars_eq_ok_iff, ← toList_text, String.toList_inj, hne,
    Text.splitArrow?_eq_none_iff]
  constructor
  · rintro ⟨rfl, h1, h2, h3⟩
    exact ⟨⟨h1, h2, h3⟩, rfl⟩
  · rintro ⟨⟨h1, h2, h3⟩, rfl⟩
    exact ⟨rfl, h1, h2, h3⟩

instance (t : TypeId) : Decidable t.WellFormed :=
  decidable_of_iff (read t.text = .ok t)
    ⟨fun h => (read_eq_ok_iff.1 h).1, fun h => read_eq_ok_iff.2 ⟨h, rfl⟩⟩

/-- The `L` in front and the `;` behind are no part of an arrow. -/
theorem arrow_infix_iff {raw : List Char} :
    ['-', '>'] <:+: 'L' :: raw ++ [';'] ↔ ['-', '>'] <:+: raw := by
  have hend : ∀ front : List Char, ['-', '>'] ≠ front ++ [';'] := by
    intro front hfront
    have hlast := congrArg List.getLast? hfront
    simp at hlast
  rw [List.infix_concat_iff, List.suffix_concat_iff, List.infix_cons_iff]
  simp [hend]

/-- The descriptor of a well-formed type holds no arrow, so the arrow of a member is the first. -/
theorem WellFormed.splitArrow?_text {t : TypeId} (h : t.WellFormed) :
    Text.splitArrow? t.text.toList = none := by
  rw [Text.splitArrow?_eq_none_iff, toList_text, arrow_infix_iff]
  exact h.no_arrow

end TypeId

theorem readOwner_eq_ok_iff {s : String} {t : TypeId} {member : List Char} :
    readOwner s = .ok (t, member) ↔
      t.WellFormed ∧ s.toList = t.text.toList ++ '-' :: '>' :: member := by
  constructor
  · intro h
    unfold readOwner at h
    split at h
    · simp at h
    · rename_i owner member' hsplit
      split at h
      · rename_i t' hread
        obtain ⟨rfl, rfl⟩ := Prod.mk.inj (Except.ok.inj h)
        obtain ⟨hwf, htext⟩ := TypeId.read_eq_ok_iff.1 hread
        refine ⟨hwf, ?_⟩
        rw [htext, String.toList_ofList]
        exact Text.eq_of_splitArrow? hsplit
      · simp at h
  · rintro ⟨hwf, hs⟩
    have hsplit : Text.splitArrow? s.toList = some (t.text.toList, member) :=
      Text.splitArrow?_eq_some_iff.2 ⟨hs, hwf.splitArrow?_text⟩
    have hread : TypeId.read (String.ofList t.text.toList) = .ok t :=
      TypeId.read_eq_ok_iff.2 ⟨hwf, String.ofList_toList.symm⟩
    simp only [readOwner, hsplit, hread]

/-! ## Methods -/

namespace MethodId

/-- What follows the arrow is read as a name, parameter types and a return type exactly when it is
those parts side by side. -/
theorem signature_eq_ok_iff {member name ret : List Char} {params : List (List Char)} :
    signature member = .ok (name, params, ret) ↔
      member = name ++ '(' :: (params.flatten ++ ')' :: ret) ∧ name ≠ [] ∧ '(' ∉ name ∧
        ')' ∉ name ∧ (∀ p ∈ params, TypeList.IsElement p ∧ p ≠ ['V'] ∧ ')' ∉ p) ∧
          TypeList.IsElement ret := by
  constructor
  · intro h
    unfold signature at h
    split at h
    · simp at h
    · rename_i name' tail hopen
      split at h
      · simp at h
      · rename_i hclose
        split at h
        · simp at h
        · rename_i params' ret' hparams
          split at h
          · simp at h
          · rename_i hne
            split at h
            · simp at h
            · rename_i ts hts
              split at h
              · simp at h
              · rename_i hvoid
                split at h
                · simp at h
                · rename_i t hret
                  simp only [Except.ok.injEq, Prod.mk.injEq] at h
                  obtain ⟨rfl, rfl, rfl⟩ := h
                  obtain ⟨hmember, hnoOpen⟩ := Text.splitFirst?_eq_some_iff.1 hopen
                  obtain ⟨htail, hnoClose⟩ := Text.splitFirst?_eq_some_iff.1 hparams
                  obtain ⟨hflat, helem⟩ := TypeList.elements_eq_ok_iff.1 hts
                  obtain ⟨hret', hone⟩ := TypeList.elements_eq_ok_iff.1 hret
                  subst hflat
                  refine ⟨by rw [hmember, htail], hne, hnoOpen, hclose, fun p hp => ?_, ?_⟩
                  · refine ⟨helem p hp, ?_, fun hc => ?_⟩
                    · rintro rfl
                      exact hvoid hp
                    · exact hnoClose (List.mem_flatten.2 ⟨p, hp, hc⟩)
                  · have ht := hone t (List.mem_singleton.2 rfl)
                    rw [List.flatten_cons, List.flatten_nil, List.append_nil] at hret'
                    exact hret' ▸ ht
                · simp at h
  · rintro ⟨rfl, hne, hnoOpen, hnoClose, hparams, hret⟩
    have hopen : Text.splitFirst? '(' (name ++ '(' :: (params.flatten ++ ')' :: ret)) =
        some (name, params.flatten ++ ')' :: ret) :=
      Text.splitFirst?_eq_some_iff.2 ⟨rfl, hnoOpen⟩
    have hflat : ')' ∉ params.flatten := by
      intro hc
      obtain ⟨p, hp, hcp⟩ := List.mem_flatten.1 hc
      exact (hparams p hp).2.2 hcp
    have hclose : Text.splitFirst? ')' (params.flatten ++ ')' :: ret) =
        some (params.flatten, ret) :=
      Text.splitFirst?_eq_some_iff.2 ⟨rfl, hflat⟩
    have hts : TypeList.elements params.flatten = .ok params :=
      TypeList.elements_eq_ok_iff.2 ⟨rfl, fun p hp => (hparams p hp).1⟩
    have hvoid : ['V'] ∉ params := fun hv => (hparams _ hv).2.1 rfl
    have hone : TypeList.elements ret = .ok [ret] := by
      refine TypeList.elements_eq_ok_iff.2 ⟨by simp, fun t ht => ?_⟩
      rw [List.mem_singleton.1 ht]
      exact hret
    simp only [signature, hopen, hnoClose, hclose, hne, hts, hvoid, hone, if_false]

theorem toList_text (m : MethodId) : m.text.toList = m.owner.text.toList ++ '-' :: '>' ::
    (m.name.toList ++ '(' :: ((m.params.map String.toList).flatten ++ ')' :: m.ret.toList)) := by
  simp [text, shortText, String.toList_join, List.flatMap]

/-- Reading a method is reading its owner and reading its signature. -/
theorem read_eq_ok_iff_parts {s : String} {m : MethodId} :
    read s = .ok m ↔ ∃ member, readOwner s = .ok (m.owner, member) ∧
      signature member = .ok (m.name.toList, m.params.map String.toList, m.ret.toList) := by
  constructor
  · intro h
    unfold read at h
    split at h
    · simp at h
    · rename_i owner member howner
      split at h
      · rename_i name params ret hsig
        obtain rfl := Except.ok.inj h
        refine ⟨member, howner, ?_⟩
        have hid : (String.toList ∘ String.ofList) = id := funext fun cs => String.toList_ofList
        simpa only [String.toList_ofList, List.map_map, hid, List.map_id] using hsig
      · simp at h
  · rintro ⟨member, howner, hsig⟩
    have hid : (String.ofList ∘ String.toList) = id := funext fun s => String.ofList_toList
    simp only [read, howner, hsig, String.ofList_toList, List.map_map, hid, List.map_id]

/-- The parts of a well-formed method as `signature` asks for them. -/
theorem wellFormed_iff {m : MethodId} : m.WellFormed ↔ m.owner.WellFormed ∧
    m.name.toList ≠ [] ∧ '(' ∉ m.name.toList ∧ ')' ∉ m.name.toList ∧
      (∀ p ∈ m.params.map String.toList, TypeList.IsElement p ∧ p ≠ ['V'] ∧ ')' ∉ p) ∧
        TypeList.IsElement m.ret.toList := by
  have hV : ∀ p : String, p.toList ≠ ['V'] ↔ p ≠ "V" := fun p => by
    rw [ne_eq, ne_eq, ← String.toList_inj]
    rfl
  simp only [List.forall_mem_map, hV, ne_eq, String.toList_eq_nil_iff]
  constructor
  · rintro ⟨h1, h2, h3, h4, h5, h6⟩
    exact ⟨h1, h2, h3, h4, h5, h6⟩
  · rintro ⟨h1, h2, h3, h4, h5, h6⟩
    exact ⟨h1, h2, h3, h4, h5, h6⟩

/-- What is read as a method is well formed and has the text as its descriptor. -/
theorem wellFormed_of_read {s : String} {m : MethodId} (h : read s = .ok m) :
    m.WellFormed ∧ m.text = s := by
  obtain ⟨member, howner, hsig⟩ := read_eq_ok_iff_parts.1 h
  obtain ⟨hwf, hs⟩ := readOwner_eq_ok_iff.1 howner
  obtain ⟨rfl, hparts⟩ := signature_eq_ok_iff.1 hsig
  refine ⟨wellFormed_iff.2 ⟨hwf, hparts⟩, ?_⟩
  rw [← String.toList_inj, toList_text, hs]

/-- The descriptor of a well-formed method is read as that method. -/
theorem WellFormed.read_text {m : MethodId} (h : m.WellFormed) : read m.text = .ok m := by
  obtain ⟨hwf, hparts⟩ := wellFormed_iff.1 h
  exact read_eq_ok_iff_parts.2
    ⟨_, readOwner_eq_ok_iff.2 ⟨hwf, toList_text m⟩, signature_eq_ok_iff.2 ⟨rfl, hparts⟩⟩

instance (m : MethodId) : Decidable m.WellFormed :=
  decidable_of_iff (read m.text = .ok m)
    ⟨fun h => (wellFormed_of_read h).1, WellFormed.read_text⟩

/-- **Method descriptors are read exactly as they are written.** A text is read as the method `m`
if and only if `m` is well formed and its descriptor is that text. So reading accepts the grammar
and nothing else, reading and writing undo each other, and different well-formed methods have
different descriptors. -/
theorem read_eq_ok_iff_wellFormed (s : String) (m : MethodId) :
    read s = .ok m ↔ m.WellFormed ∧ m.text = s := by
  constructor
  · exact wellFormed_of_read
  · rintro ⟨hwf, rfl⟩
    exact hwf.read_text

end MethodId
end DexQuery
