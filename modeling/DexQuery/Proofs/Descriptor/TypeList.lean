import DexQuery.Proofs.Descriptor.ElementType
import DexQuery.Proofs.Text.Index

/-!
# Lists of element types are uniquely readable

A text that is made of element types is made of them in one way, and a text that is not is refused
(`TypeList.split_uniquely`).

The same list is read by two indices of bytes: one at the beginning of an element type, one that
goes over its brackets to its end, with the text cut between the two (`TypeList.splitFrom`). The
indices stand between characters all the time: what stops the second one is below 128, and so never
within a character. So no cut fails, and both ways of reading agree (`TypeList.splitFrom_append`).
-/

namespace DexQuery
namespace TypeList

open Text

/-! ## Reading by indices -/

/-- Why reading by indices stops before the end of the text. -/
inductive Halt where
  | malformed (reason : Malformation)
  /-- A text was to be cut within a character or behind its end. -/
  | badCut
deriving DecidableEq

/-- The index of the first byte from `i` on that is no bracket. -/
def skipBrackets (bs : List UInt8) (i : Nat) : Nat :=
  if bs[i]? = some '['.toUInt8 then skipBrackets bs (i + 1) else i
termination_by bs.length - i
decreasing_by
  have hlt := (List.getElem?_eq_some_iff.1 ‹bs[i]? = some '['.toUInt8›).1
  omega

/-- The index behind the element type that begins at byte `start`. -/
def elementStop (cs : List Char) (start : Nat) : Except Halt Nat :=
  let i := skipBrackets (encode cs) start
  match (encode cs)[i]? with
  | none => .error (.malformed .arrayWithoutElement)
  | some code =>
    if code = 'L'.toUInt8 then
      match tail? cs i with
      | none => .error .badCut
      | some rest =>
        match find? ';' rest with
        | none => .error (.malformed .unterminatedObject)
        | some n => if n = 1 then .error (.malformed .emptyName) else .ok (i + (n + 1))
    else if code ∈ primitiveCodes.map Char.toUInt8 then .ok (i + 1)
    else .error (.malformed .invalidTypeCode)

theorem le_skipBrackets (bs : List UInt8) (i : Nat) : i ≤ skipBrackets bs i := by
  fun_induction skipBrackets bs i with
  | case1 i _ ih => omega
  | case2 i _ => exact Nat.le_refl i

/-- **Reading by indices goes on** with every element type. -/
theorem lt_of_elementStop {cs : List Char} {start stop : Nat}
    (h : elementStop cs start = .ok stop) : start < stop := by
  have hle := le_skipBrackets (encode cs) start
  simp only [elementStop] at h
  split at h
  · cases h
  · split at h
    · split at h
      · cases h
      · split at h
        · cases h
        · split at h
          · cases h
          · obtain rfl := Except.ok.inj h
            omega
    · split at h
      · obtain rfl := Except.ok.inj h
        omega
      · cases h

/-- The element types of a text from byte `start` on. -/
def splitFrom (cs : List Char) (start : Nat) : Except Halt (List (List Char)) :=
  if start < (encode cs).length then
    match _stop : elementStop cs start with
    | .error e => .error e
    | .ok stop =>
      match slice? cs start stop with
      | none => .error .badCut
      | some t =>
        match splitFrom cs stop with
        | .error e => .error e
        | .ok ts => .ok (t :: ts)
  else .ok []
termination_by (encode cs).length - start
decreasing_by
  have := lt_of_elementStop _stop
  omega

/-! ## Both ways of reading -/

variable {before after : List Char}

/-- A bracket in front belongs to the element type behind it. -/
theorem elementStop_bracket {cs : List Char} {i : Nat}
    (h : (encode cs)[i]? = some '['.toUInt8) : elementStop cs i = elementStop cs (i + 1) := by
  have hskip : skipBrackets (encode cs) i = skipBrackets (encode cs) (i + 1) := by
    rw [skipBrackets, if_pos h]
  simp only [elementStop, hskip]

theorem skipBrackets_append (h : after.head? ≠ some '[') :
    skipBrackets (encode (before ++ after)) (size before) = size before := by
  rw [skipBrackets, if_neg]
  rwa [getElem?_encode_append_eq_iff (by decide)]

theorem isAscii_of_mem_primitiveCodes {c : Char} (h : c ∈ primitiveCodes) : IsAscii c := by
  have hall : ∀ x ∈ primitiveCodes, IsAscii x := by simp [primitiveCodes, IsAscii]
  exact hall c h

theorem mem_map_primitiveCodes_iff {c : Char} {b : UInt8} (hb : b ∈ String.utf8EncodeChar c) :
    b ∈ primitiveCodes.map Char.toUInt8 ↔ c ∈ primitiveCodes := by
  rw [List.mem_map]
  constructor
  · rintro ⟨x, hx, rfl⟩
    rwa [(mem_encodeChar_iff (isAscii_of_mem_primitiveCodes hx)).1 hb]
  · intro hc
    rw [(isAscii_of_mem_primitiveCodes hc).encodeChar, List.mem_singleton] at hb
    exact ⟨c, hc, hb.symm⟩

/-- The end of an object type is its first semicolon. -/
theorem find?_object (r : List Char) :
    find? ';' ('L' :: r) = (splitFirst? ';' r).map fun p => size p.1 + 1 := by
  rw [find?, splitFirst?, if_neg (by decide), Option.map_map]
  congr 1
  funext p
  exact Nat.add_comm ..

/-- **The index behind an element type** is that of the text behind it. -/
theorem elementStop_append (before after : List Char) :
    elementStop (before ++ after) (size before) =
      ((element? after).map fun p => size before + size p.1).mapError .malformed := by
  induction after generalizing before with
  | nil =>
    have hend : (encode (before ++ []))[size before]? = none := by simp
    have hskip : skipBrackets (encode (before ++ [])) (size before) = size before :=
      skipBrackets_append nofun
    simp only [elementStop, hskip, hend]
    rfl
  | cons c r ih =>
    by_cases hbracket : c = '['
    · subst hbracket
      have hbyte : (encode (before ++ '[' :: r))[size before]? = some '['.toUInt8 :=
        (getElem?_encode_append_eq_iff (by decide)).2 rfl
      have hrest := ih (before ++ ['['])
      have hone : size ['['] = 1 := by decide
      rw [List.append_assoc, List.singleton_append, size_append, hone] at hrest
      rw [elementStop_bracket hbyte, hrest, element?, if_pos rfl]
      cases element? r with
      | error reason => rfl
      | ok p =>
        change Except.ok (size before + 1 + size p.1) = Except.ok (size before + size ('[' :: p.1))
        rw [← List.singleton_append, size_append, hone, Nat.add_assoc]
    · obtain ⟨b, hb, hbyte⟩ := getElem?_encode_char before r c.utf8Size_pos
      have hskip : skipBrackets (encode (before ++ c :: r)) (size before) = size before :=
        skipBrackets_append (by simpa using hbracket)
      have hcode := eq_toUInt8_iff (x := 'L') (by decide) hb
      rw [Nat.add_zero] at hbyte
      simp only [elementStop, hskip, hbyte, tail?_append]
      rw [element?, if_neg hbracket]
      by_cases hobject : c = 'L'
      · subst hobject
        have hone : 'L'.utf8Size = 1 ∧ ';'.utf8Size = 1 := by decide
        rw [if_pos (hcode.2 rfl), if_pos rfl, find?_object]
        cases splitFirst? ';' r with
        | none => rfl
        | some p =>
          obtain ⟨name, rest⟩ := p
          cases name with
          | nil => rfl
          | cons d name =>
            have hpos := d.utf8Size_pos
            simp only [Option.map_some, size_cons]
            rw [if_neg (by omega)]
            change Except.ok _ = Except.ok (size before + size ('L' :: d :: name ++ [';']))
            simp only [List.cons_append, size_cons, size_append, size_nil]
            congr 1
            omega
      · rw [if_neg (hcode.not.2 hobject), if_neg hobject]
        by_cases hprimitive : c ∈ primitiveCodes
        · have hone := (isAscii_of_mem_primitiveCodes hprimitive).utf8Size
          rw [if_pos ((mem_map_primitiveCodes_iff hb).2 hprimitive), if_pos hprimitive]
          change _ = Except.ok (size before + size [c])
          rw [size_cons, size_nil, hone]
        · rw [if_neg ((mem_map_primitiveCodes_iff hb).not.2 hprimitive), if_neg hprimitive]
          rfl

theorem splitFrom_of_error {cs : List Char} {i : Nat} {e : Halt} (hi : i < (encode cs).length)
    (h : elementStop cs i = .error e) : splitFrom cs i = .error e := by
  rw [splitFrom, if_pos hi]
  split
  · rename_i e' he'
    exact congrArg Except.error (Except.error.inj (he'.symm.trans h))
  · rename_i stop hstop
    rw [h] at hstop
    cases hstop

theorem splitFrom_of_ok {cs t : List Char} {i stop : Nat} (hi : i < (encode cs).length)
    (h : elementStop cs i = .ok stop) (ht : slice? cs i stop = some t) :
    splitFrom cs i = (splitFrom cs stop).map (t :: ·) := by
  rw [splitFrom, if_pos hi]
  split
  · rename_i e he
    rw [h] at he
    cases he
  · rename_i stop' hstop
    obtain rfl := Except.ok.inj (h.symm.trans hstop)
    rw [ht]
    cases splitFrom cs stop <;> rfl

/-- Reading by indices goes on behind the element type in front. -/
theorem splitFrom_append_of_element? {t rest : List Char} (h : element? after = .ok (t, rest)) :
    splitFrom (before ++ after) (size before) =
      (splitFrom ((before ++ t) ++ rest) (size (before ++ t))).map (t :: ·) := by
  obtain ⟨rfl, hne⟩ := append_of_element? h
  obtain ⟨c, t, rfl⟩ := List.exists_cons_of_ne_nil hne
  have hlt : size before < (encode (before ++ (c :: t ++ rest))).length := by
    have hpos := c.utf8Size_pos
    rw [length_encode, size_append, size_append, size_cons]
    omega
  have hstop : elementStop (before ++ (c :: t ++ rest)) (size before) =
      .ok (size before + size (c :: t)) := by
    rw [elementStop_append, h]
    rfl
  rw [splitFrom_of_ok hlt hstop (slice?_append ..), List.append_assoc, size_append]

/-- **Both ways of reading agree**, and no text is cut within a character. -/
theorem splitFrom_append (before after : List Char) :
    splitFrom (before ++ after) (size before) = (elements after).mapError .malformed := by
  fun_induction elements after generalizing before with
  | case1 =>
    rw [splitFrom, if_neg]
    · rfl
    · simp
  | case2 c r reason hread =>
    have hpos := c.utf8Size_pos
    refine splitFrom_of_error ?_ ?_
    · rw [length_encode, size_append, size_cons]
      omega
    · rw [elementStop_append, hread]
      rfl
  | case3 c r t rest hread reason hrest ih =>
    rw [splitFrom_append_of_element? hread, ih, hrest]
    rfl
  | case4 c r t rest hread ts hrest ih =>
    rw [splitFrom_append_of_element? hread, ih, hrest]
    rfl

/-! ## Texts of element types -/

/-- The texts are element types, and put together they are `s`. -/
structure MadeOf (s : String) (ts : List String) : Prop where
  join : String.join ts = s
  elements : ∀ t ∈ ts, IsElement t.toList

theorem split_eq_ok_iff {s : String} {ts : List String} : split s = .ok ts ↔ MadeOf s ts := by
  have hmade : MadeOf s ts ↔ (ts.map String.toList).flatten = s.toList ∧
      ∀ t ∈ ts.map String.toList, IsElement t := by
    rw [List.forall_mem_map, ← List.flatMap_def, ← String.toList_join, String.toList_inj]
    exact ⟨fun h => ⟨h.join, h.elements⟩, fun h => ⟨h.1, h.2⟩⟩
  rw [hmade, ← elements_eq_ok_iff, split]
  cases elements s.toList with
  | error reason => simp
  | ok us =>
    simp only [Except.ok.injEq]
    constructor
    · rintro rfl
      simp
    · rintro rfl
      simp

/-- **A text is made of element types in one way**, the one that is found; every other text is
refused. Reading by indices finds the same and refuses for the same reason, and never cuts a text
within a character. -/
theorem split_uniquely (s : String) :
    (∀ ts, split s = .ok ts ↔ MadeOf s ts) ∧
      (∀ ts us, MadeOf s ts → MadeOf s us → ts = us) ∧
      ((¬ ∃ ts, MadeOf s ts) → ∃ reason, split s = .error reason) ∧
      splitFrom s.toList 0 =
        ((split s).map fun ts => ts.map String.toList).mapError .malformed := by
  refine ⟨fun ts => split_eq_ok_iff, fun ts us hts hus => ?_, fun hnone => ?_, ?_⟩
  · rw [← split_eq_ok_iff] at hts hus
    exact Except.ok.inj (hts.symm.trans hus)
  · cases h : split s with
    | error reason => exact ⟨reason, rfl⟩
    | ok ts => exact absurd ⟨ts, split_eq_ok_iff.1 h⟩ hnone
  · have hagree := splitFrom_append [] s.toList
    rw [List.nil_append, size_nil] at hagree
    rw [hagree, split]
    cases elements s.toList with
    | error reason => rfl
    | ok ts => simp [Except.map, Except.mapError]

/-- A bracket with nothing behind it is refused, and a name may be of longer characters. -/
theorem split_uniquely_sample :
    MadeOf "[[ILé/ü;J" ["[[I", "Lé/ü;", "J"] ∧
      (∀ us, MadeOf "[[ILé/ü;J" us → ["[[I", "Lé/ü;", "J"] = us) ∧
      (¬ ∃ ts, MadeOf "I[" ts) ∧ ∃ reason, split "I[" = .error reason := by
  have hmade : MadeOf "[[ILé/ü;J" ["[[I", "Lé/ü;", "J"] := by
    have hread : (split "[[ILé/ü;J").toOption = some ["[[I", "Lé/ü;", "J"] := by decide +kernel
    cases h : split "[[ILé/ü;J" with
    | error reason =>
      rw [h] at hread
      cases hread
    | ok ts =>
      rw [h] at hread
      obtain rfl := Option.some.inj hread
      exact split_eq_ok_iff.1 h
  have hnone : ¬ ∃ ts, MadeOf "I[" ts := by
    rintro ⟨ts, hts⟩
    have hread : (split "I[").toOption = none := by decide +kernel
    rw [split_eq_ok_iff.2 hts] at hread
    cases hread
  exact ⟨hmade, fun us => (split_uniquely _).2.1 _ us hmade, hnone, (split_uniquely _).2.2.1 hnone⟩

end TypeList
end DexQuery
