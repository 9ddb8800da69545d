import DexQuery.Answer.Package
import Mathlib.Data.List.Basic

/-!
# The names of packages

The packages that a type brings with it are found by cutting the dotted name of its own package into
segments and putting them together again one by one. When the first segment is not empty, what comes
out is told by the names alone: a package and those around it are the names that it goes on from
with a dot (`Package.Rooted.mem_ancestry_iff`), and one of them lies directly in another if one
segment stands behind that dot (`Package.Rooted.mem_links_iff`).

Both follow by taking a name apart at its first dot (`Package.dotted_induction`), at which the
cutting takes it apart, too.
-/

namespace DexQuery
namespace Package

/-! ## Dotted names -/

/-- A name that holds no dot. -/
def Undotted (s : String) : Prop := '.' ∉ s.toList

theorem append_dot_ne_empty (s r : String) : s ++ "." ++ r ≠ "" := by
  intro h
  have hdot := congrArg String.toList h
  simp at hdot

/-- A name is undotted, or there is an undotted one before its first dot. -/
theorem exists_first_segment (p : String) :
    Undotted p ∨ ∃ s r, Undotted s ∧ p = s ++ "." ++ r := by
  cases h : Text.splitFirst? '.' p.toList with
  | none => exact .inl (Text.splitFirst?_eq_none_iff.1 h)
  | some parts =>
    obtain ⟨s, r⟩ := parts
    obtain ⟨hp, hs⟩ := Text.splitFirst?_eq_some_iff.1 h
    refine .inr ⟨String.ofList s, String.ofList r, ?_, ?_⟩
    · rwa [Undotted, String.toList_ofList]
    · rw [← String.toList_inj, hp]
      simp

/-- What holds of undotted names, and of a name with an undotted one put before it, holds of every
name. -/
@[elab_as_elim]
theorem dotted_induction {motive : String → Prop} (single : ∀ s, Undotted s → motive s)
    (step : ∀ s r, Undotted s → motive r → motive (s ++ "." ++ r)) (p : String) : motive p := by
  rcases exists_first_segment p with hp | ⟨s, r, hs, hp⟩
  · exact single p hp
  · have hlt : r.length < p.length := by
      rw [hp, String.length_append, String.length_append]
      have hdot : ".".length = 1 := rfl
      omega
    rw [hp]
    exact step s r hs (dotted_induction single step r)
termination_by p.length

theorem dot_inj {a a' b b' : List Char} (ha : '.' ∉ a) (ha' : '.' ∉ a')
    (h : a ++ '.' :: b = a' ++ '.' :: b') : a = a' ∧ b = b' := by
  have hcut : Text.splitFirst? '.' (a ++ '.' :: b) = some (a, b) :=
    Text.splitFirst?_eq_some_iff.2 ⟨rfl, ha⟩
  rw [h, Text.splitFirst?_eq_some_iff.2 ⟨rfl, ha'⟩] at hcut
  obtain ⟨h₁, h₂⟩ := Prod.mk.inj (Option.some.inj hcut)
  exact ⟨h₁.symm, h₂.symm⟩

theorem toList_append_dot (s r : String) :
    (s ++ "." ++ r).toList = s.toList ++ '.' :: r.toList := by
  simp only [String.toList_append, List.append_assoc]
  rfl

theorem not_undotted_append_dot (s r : String) : ¬ Undotted (s ++ "." ++ r) := by
  rw [Undotted, toList_append_dot, not_not]
  exact List.mem_append_right _ List.mem_cons_self

/-- A name is cut at its first dot in one way. -/
theorem append_dot_inj {s s' r r' : String} (hs : Undotted s) (hs' : Undotted s')
    (h : s ++ "." ++ r = s' ++ "." ++ r') : s = s' ∧ r = r' := by
  have hlists := congrArg String.toList h
  rw [toList_append_dot, toList_append_dot] at hlists
  obtain ⟨h₁, h₂⟩ := dot_inj hs hs' hlists
  exact ⟨String.toList_inj.1 h₁, String.toList_inj.1 h₂⟩

/-- A name is cut at its last dot in one way. -/
theorem append_dot_last_inj {n n' s s' : String} (hs : Undotted s) (hs' : Undotted s')
    (h : n ++ "." ++ s = n' ++ "." ++ s') : n = n' := by
  have hlists := congrArg (fun p => p.toList.reverse) h
  simp only [toList_append_dot, List.reverse_append, List.reverse_cons, List.append_assoc,
    List.singleton_append] at hlists
  have hnot : ∀ {t : String}, Undotted t → '.' ∉ t.toList.reverse := fun ht hmem =>
    ht (List.mem_reverse.1 hmem)
  obtain ⟨-, h₂⟩ := dot_inj (hnot hs) (hnot hs') hlists
  exact String.toList_inj.1 (List.reverse_injective h₂)

theorem split_undotted {s : String} (hs : Undotted s) : Text.split '.' s = [s] := by
  have hpieces : Text.pieces (· == '.') s.toList = [s.toList] := by
    refine Text.pieces_of_forall_not fun c hc => beq_eq_false_iff_ne.2 ?_
    rintro rfl
    exact hs hc
  rw [Text.split, hpieces, List.map_singleton, String.ofList_toList]

theorem split_append_dot {s : String} (hs : Undotted s) (r : String) :
    Text.split '.' (s ++ "." ++ r) = s :: Text.split '.' r := by
  have hfirst := split_undotted hs
  rw [Text.split] at hfirst ⊢
  have hcut := @Text.pieces_append_cons (· == '.') '.' rfl s.toList r.toList
  rw [toList_append_dot, hcut, List.map_append, hfirst]
  rfl

/-! ## Packages that enclose one -/

/-- The package `n` is `p` or encloses it: the name of `p` goes on behind `n` with a dot. -/
def Encloses (n p : String) : Prop := n = p ∨ ∃ rest, p = n ++ "." ++ rest

theorem encloses_undotted {n p : String} (hp : Undotted p) : Encloses n p ↔ n = p := by
  refine ⟨?_, .inl⟩
  rintro (h | ⟨rest, rfl⟩)
  · exact h
  · exact absurd hp (not_undotted_append_dot n rest)

theorem encloses_append_dot {n s r : String} (hs : Undotted s) :
    Encloses n (s ++ "." ++ r) ↔ n = s ∨ ∃ q, n = s ++ "." ++ q ∧ Encloses q r := by
  constructor
  · rintro (rfl | ⟨rest, h⟩)
    · exact .inr ⟨r, rfl, .inl rfl⟩
    · rcases exists_first_segment n with hn | ⟨s', q, hs', rfl⟩
      · exact .inl (append_dot_inj hs hn h).1.symm
      · have hassoc : s' ++ "." ++ q ++ "." ++ rest = s' ++ "." ++ (q ++ "." ++ rest) := by
          simp only [String.append_assoc]
        obtain ⟨rfl, rfl⟩ := append_dot_inj hs hs' (h.trans hassoc)
        exact .inr ⟨q, rfl, .inr ⟨rest, rfl⟩⟩
  · rintro (rfl | ⟨q, rfl, rfl | ⟨rest, rfl⟩⟩)
    · exact .inr ⟨r, rfl⟩
    · exact .inl rfl
    · exact .inr ⟨rest, by simp only [String.append_assoc]⟩

theorem extend_of_ne {path : String} (h : path ≠ "") (s : String) :
    extend path s = path ++ "." ++ s := if_neg h

/-- The packages from one downwards are those that enclose the last. -/
theorem mem_chain {path : String} (hpath : path ≠ "") (r : String) {n : String} :
    n ∈ chain path (Text.split '.' r) ↔ ∃ q, n = path ++ "." ++ q ∧ Encloses q r := by
  induction r using dotted_induction generalizing path with
  | single s hs =>
    simp only [split_undotted hs, chain, extend_of_ne hpath, List.mem_singleton,
      encloses_undotted hs, exists_eq_right]
  | step s r hs ih =>
    rw [split_append_dot hs, chain, extend_of_ne hpath, List.mem_cons,
      ih (append_dot_ne_empty path s)]
    simp only [encloses_append_dot hs]
    constructor
    · rintro (rfl | ⟨q, rfl, hq⟩)
      · exact ⟨s, rfl, .inl rfl⟩
      · exact ⟨s ++ "." ++ q, by simp only [String.append_assoc], .inr ⟨q, rfl, hq⟩⟩
    · rintro ⟨_, rfl, rfl | ⟨q, rfl, hq⟩⟩
      · exact .inl rfl
      · exact .inr ⟨q, by simp only [String.append_assoc], hq⟩

/-- Of two packages of a chain one is linked to the other if that goes on with one more segment. -/
theorem mem_zip_chain {path : String} (hpath : path ≠ "") (r : String) {n m : String} :
    (n, m) ∈ (path :: chain path (Text.split '.' r)).zip (chain path (Text.split '.' r)) ↔
      m ∈ chain path (Text.split '.' r) ∧ ∃ s, Undotted s ∧ m = n ++ "." ++ s := by
  have hlast : ∀ {path s : String}, Undotted s →
      ((n = path ∧ m = path ++ "." ++ s) ↔
        m = path ++ "." ++ s ∧ ∃ s', Undotted s' ∧ m = n ++ "." ++ s') := by
    intro path s hs
    constructor
    · rintro ⟨rfl, rfl⟩
      exact ⟨rfl, s, hs, rfl⟩
    · rintro ⟨hm, s', hs', hm'⟩
      exact ⟨append_dot_last_inj hs' hs (hm'.symm.trans hm), hm⟩
  induction r using dotted_induction generalizing path with
  | single s hs =>
    simp only [split_undotted hs, chain, extend_of_ne hpath, List.zip_cons_cons, List.zip_nil_right,
      List.mem_singleton, Prod.mk.injEq, hlast hs]
  | step s r hs ih =>
    rw [split_append_dot hs, chain, extend_of_ne hpath, List.zip_cons_cons, List.mem_cons,
      List.mem_cons, Prod.mk.injEq, hlast hs, or_and_right]
    exact or_congr_right (ih (append_dot_ne_empty path s))

/-- The name of a package in which no segment is left out in front. -/
def Rooted (p : String) : Prop := p ≠ "" ∧ p.toList.head? ≠ some '.'

variable {n m p : String}

/-- Nor is one left out in front of the packages around it. -/
theorem Rooted.ne_empty_of_encloses (h : Rooted p) (hn : Encloses n p) : n ≠ "" := by
  rintro rfl
  rcases hn with rfl | ⟨rest, rfl⟩
  · exact h.1 rfl
  · refine h.2 ?_
    rw [toList_append_dot]
    rfl

/-- The first segment of such a name is a package of its own. -/
theorem Rooted.ancestry_eq {s r : String} (h : Rooted (s ++ "." ++ r)) (hs : Undotted s) :
    s ≠ "" ∧ ancestry (s ++ "." ++ r) = s :: chain s (Text.split '.' r) := by
  refine ⟨h.ne_empty_of_encloses (.inr ⟨r, rfl⟩), ?_⟩
  rw [ancestry, split_append_dot hs]
  rfl

theorem ancestry_undotted (hp : Undotted p) : ancestry p = [p] := by
  rw [ancestry, split_undotted hp]
  rfl

/-- **A package and those around it are those that enclose it.** -/
theorem Rooted.mem_ancestry_iff (h : Rooted p) : n ∈ ancestry p ↔ Encloses n p := by
  rcases exists_first_segment p with hp | ⟨s, r, hs, rfl⟩
  · rw [ancestry_undotted hp, List.mem_singleton, encloses_undotted hp]
  · obtain ⟨hne, hancestry⟩ := h.ancestry_eq hs
    rw [hancestry, List.mem_cons, mem_chain hne, encloses_append_dot hs]

/-- **A package lies directly in another** if its name goes on behind it with a dot and one
segment. -/
theorem Rooted.mem_links_iff (h : Rooted p) :
    (n, m) ∈ (ancestry p).zip (ancestry p).tail ↔
      Encloses m p ∧ ∃ s, Undotted s ∧ m = n ++ "." ++ s := by
  have hdotted : ∀ {s}, m = n ++ "." ++ s → ¬ Undotted m := by
    rintro s rfl
    exact not_undotted_append_dot n s
  rw [← h.mem_ancestry_iff]
  rcases exists_first_segment p with hp | ⟨s, r, hs, rfl⟩
  · rw [ancestry_undotted hp, List.tail_cons, List.zip_nil_right, List.mem_singleton]
    constructor
    · intro hmem
      cases hmem
    · rintro ⟨rfl, s, -, hm⟩
      exact absurd hp (hdotted hm)
  · obtain ⟨hne, hancestry⟩ := h.ancestry_eq hs
    rw [hancestry, List.tail_cons, mem_zip_chain hne, List.mem_cons]
    constructor
    · rintro ⟨hm, hnext⟩
      exact ⟨.inr hm, hnext⟩
    · rintro ⟨rfl | hm, s', hs', hm'⟩
      · exact absurd hs (hdotted hm')
      · exact ⟨hm, s', hs', hm'⟩

end Package
end DexQuery
