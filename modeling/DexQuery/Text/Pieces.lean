/-!
# Cutting text at characters

The formats of this library are cut at single characters and at the arrow `->`. Every cut is made
on the list of characters, and each function comes with the lemma that nothing is lost by it.
-/

namespace DexQuery
namespace Text

/-- The text before the first `sep` and the text after it. -/
def splitFirst? (sep : Char) : List Char → Option (List Char × List Char)
  | [] => none
  | c :: r => if c = sep then some ([], r) else (splitFirst? sep r).map fun p => (c :: p.1, p.2)

theorem splitFirst?_eq_some_iff {sep : Char} {cs a b : List Char} :
    splitFirst? sep cs = some (a, b) ↔ cs = a ++ sep :: b ∧ sep ∉ a := by
  induction cs generalizing a with
  | nil => simp [splitFirst?]
  | cons c r ih =>
    by_cases h : c = sep
    · subst h
      cases a with
      | nil => simp [splitFirst?, eq_comm]
      | cons d a =>
        simp only [splitFirst?, if_true, Option.some.injEq, Prod.mk.injEq, reduceCtorEq, false_and,
          List.cons_append, List.cons.injEq, List.mem_cons, not_or, false_iff]
        exact fun h => h.2.1 h.1.1
    · cases a with
      | nil => simp [splitFirst?, h]
      | cons d a =>
        simp only [splitFirst?, h, if_false, Option.map_eq_some_iff, Prod.exists, Prod.mk.injEq,
          List.cons.injEq, List.cons_append, List.mem_cons, not_or]
        constructor
        · rintro ⟨x, y, hxy, ⟨rfl, rfl⟩, rfl⟩
          exact ⟨⟨rfl, (ih.1 hxy).1⟩, Ne.symm h, (ih.1 hxy).2⟩
        · rintro ⟨⟨rfl, h1⟩, _, h2⟩
          exact ⟨a, b, ih.2 ⟨h1, h2⟩, ⟨rfl, rfl⟩, rfl⟩

theorem splitFirst?_eq_none_iff {sep : Char} {cs : List Char} :
    splitFirst? sep cs = none ↔ sep ∉ cs := by
  induction cs with
  | nil => simp [splitFirst?]
  | cons c r ih =>
    by_cases h : c = sep
    · simp [splitFirst?, h]
    · simp [splitFirst?, h, ih, Ne.symm h]

/-- The text before the first `->` and the text after it. -/
def splitArrow? : List Char → Option (List Char × List Char)
  | '-' :: '>' :: r => some ([], r)
  | [] => none
  | c :: r => (splitArrow? r).map fun p => (c :: p.1, p.2)

theorem eq_of_splitArrow? {cs a b : List Char} (h : splitArrow? cs = some (a, b)) :
    cs = a ++ '-' :: '>' :: b := by
  fun_induction splitArrow? cs generalizing a with
  | case1 r => simp at h; simp [← h.1, h.2]
  | case2 => simp at h
  | case3 c r _ ih =>
    obtain ⟨⟨x, y⟩, hxy, hp⟩ := Option.map_eq_some_iff.1 h
    simp at hp
    obtain ⟨rfl, rfl⟩ := hp
    simp [ih hxy]

/-- Where no arrow begins, the search goes on behind the first character. -/
theorem splitArrow?_cons {c : Char} {r : List Char} (h : ∀ r', c = '-' → r ≠ '>' :: r') :
    splitArrow? (c :: r) = (splitArrow? r).map fun p => (c :: p.1, p.2) := by
  rw [splitArrow?]
  rintro r' rfl rfl
  exact h r' rfl rfl

theorem splitArrow?_eq_none_iff {cs : List Char} :
    splitArrow? cs = none ↔ ¬ ['-', '>'] <:+: cs := by
  fun_induction splitArrow? cs with
  | case1 r => simp [List.infix_cons_iff]
  | case2 => simp
  | case3 c r hc ih =>
    have hp : ¬ ['-', '>'] <+: c :: r := by
      rintro ⟨r', hr⟩
      simp only [List.cons_append, List.cons.injEq, List.nil_append] at hr
      exact hc r' hr.1.symm hr.2.symm
    simp [List.infix_cons_iff, hp, ih]

/-- The first arrow has no arrow before it. -/
theorem splitArrow?_eq_some_iff {cs a b : List Char} :
    splitArrow? cs = some (a, b) ↔ cs = a ++ '-' :: '>' :: b ∧ splitArrow? a = none := by
  constructor
  · intro h
    refine ⟨eq_of_splitArrow? h, ?_⟩
    fun_induction splitArrow? cs generalizing a with
    | case1 r =>
      obtain ⟨rfl, rfl⟩ := Prod.mk.inj (Option.some.inj h)
      rfl
    | case2 => simp at h
    | case3 c r hc ih =>
      obtain ⟨⟨x, y⟩, hxy, hp⟩ := Option.map_eq_some_iff.1 h
      obtain ⟨rfl, rfl⟩ := Prod.mk.inj hp
      have hr : r = x ++ '-' :: '>' :: y := eq_of_splitArrow? hxy
      rw [splitArrow?_cons, ih hxy, Option.map_none]
      rintro x' rfl rfl
      exact hc _ rfl hr
  · rintro ⟨rfl, h⟩
    induction a with
    | nil => simp [splitArrow?]
    | cons c a ih =>
      have ha : ∀ a', c = '-' → a ≠ '>' :: a' := by
        rintro a' rfl rfl
        simp [splitArrow?] at h
      rw [splitArrow?_cons ha, Option.map_eq_none_iff] at h
      rw [List.cons_append, splitArrow?_cons, ih h, Option.map_some]
      rintro r' rfl hr
      cases a with
      | nil => simp at hr
      | cons d a =>
        obtain ⟨rfl, -⟩ := List.cons.inj hr
        exact ha a rfl rfl

/-- The stretches of text between the characters that satisfy `sep`; there is one more of them
than there are such characters. -/
def pieces (sep : Char → Bool) : List Char → List (List Char)
  | [] => [[]]
  | c :: r =>
    if sep c then [] :: pieces sep r
    else match pieces sep r with
      | [] => [[c]]
      | p :: ps => (c :: p) :: ps

theorem pieces_ne_nil (sep : Char → Bool) (cs : List Char) : pieces sep cs ≠ [] := by
  cases cs with
  | nil => simp [pieces]
  | cons c r =>
    unfold pieces
    split
    · simp
    · split <;> simp

/-- A text without separators is its only piece. -/
theorem pieces_of_forall_not {sep : Char → Bool} {cs : List Char} (h : ∀ c ∈ cs, sep c = false) :
    pieces sep cs = [cs] := by
  induction cs with
  | nil => rfl
  | cons c r ih =>
    obtain ⟨hc, hr⟩ := List.forall_mem_cons.1 h
    simp only [pieces, hc, ih hr, Bool.false_eq_true, if_false]

/-- A separator cuts a text in two, each of which has its own pieces. -/
theorem pieces_append_cons {sep : Char → Bool} {c : Char} (hc : sep c = true) (cs ds : List Char) :
    pieces sep (cs ++ c :: ds) = pieces sep cs ++ pieces sep ds := by
  induction cs with
  | nil => simp only [List.nil_append, pieces, hc, if_true, List.cons_append]
  | cons d r ih =>
    by_cases hd : sep d = true
    · simp only [List.cons_append, pieces, hd, if_true, ih]
    · cases hr : pieces sep r with
      | nil => exact absurd hr (pieces_ne_nil sep r)
      | cons p ps => simp only [List.cons_append, pieces, hd, ih, hr, Bool.false_eq_true, if_false]

/-- No piece holds a separator. -/
theorem not_sep_of_mem_pieces {sep : Char → Bool} {cs p : List Char} (hp : p ∈ pieces sep cs)
    {c : Char} (hc : c ∈ p) : sep c = false := by
  induction cs generalizing p with
  | nil => simp [pieces] at hp; simp [hp] at hc
  | cons d r ih =>
    unfold pieces at hp
    split at hp
    · rcases List.mem_cons.1 hp with rfl | hp
      · simp at hc
      · exact ih hp hc
    · rename_i hd
      split at hp
      · simp at hp; subst hp; simp at hc; simpa [hc] using hd
      · rename_i q qs hq
        rcases List.mem_cons.1 hp with rfl | hp
        · rcases List.mem_cons.1 hc with rfl | hc
          · simpa using hd
          · exact ih (by simp [hq]) hc
        · exact ih (by simp [hq, hp]) hc

/-- The pieces with the separator between them are the text again. -/
theorem intercalate_pieces (sep : Char) (cs : List Char) :
    [sep].intercalate (pieces (· == sep) cs) = cs := by
  induction cs with
  | nil => rfl
  | cons c r ih =>
    cases hr : pieces (· == sep) r with
    | nil => exact absurd hr (pieces_ne_nil _ r)
    | cons p ps =>
      rw [hr] at ih
      by_cases hc : c = sep
      · subst hc
        simp only [pieces, beq_self_eq_true, if_true, hr, List.intercalate_cons_cons, ih,
          List.nil_append, List.singleton_append]
      · have hsep : (c == sep) = false := beq_eq_false_iff_ne.2 hc
        simp only [pieces, hsep, hr, Bool.false_eq_true, if_false]
        cases ps with
        | nil => simpa using congrArg (c :: ·) ih
        | cons q qs =>
          rw [List.intercalate_cons_cons] at ih ⊢
          simpa using congrArg (c :: ·) ih

/-- The pieces of `s` between the characters `sep`. -/
def split (sep : Char) (s : String) : List String :=
  (pieces (· == sep) s.toList).map String.ofList

theorem split_injective {sep : Char} {s s' : String} (h : split sep s = split sep s') :
    s = s' := by
  have hpieces := congrArg (List.map String.toList) h
  simp only [split, List.map_map, Function.comp_def, String.toList_ofList, List.map_id'] at hpieces
  rw [← String.toList_inj, ← intercalate_pieces sep s.toList, hpieces, intercalate_pieces]

/-- `s` with every `old` replaced by `new`. -/
def replaceChar (old new : Char) (s : String) : String :=
  String.ofList (s.toList.map fun c => if c = old then new else c)

/-- Whether `needle` occurs in `cs`. -/
def occursIn (needle : List Char) : List Char → Bool
  | [] => needle.isEmpty
  | c :: r => needle.isPrefixOf (c :: r) || occursIn needle r

/-- The text before the first occurrence of `needle` and the text after it. -/
def splitOccurrence? (needle : List Char) : List Char → Option (List Char × List Char)
  | [] => if needle.isEmpty then some ([], []) else none
  | c :: r =>
    if needle.isPrefixOf (c :: r) then some ([], (c :: r).drop needle.length)
    else (splitOccurrence? needle r).map fun p => (c :: p.1, p.2)

end Text
end DexQuery
