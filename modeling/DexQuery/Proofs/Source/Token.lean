import DexQuery.Source.Token

/-!
# What stands at the front of a source text

Scanning goes on by one token at a time, and which one that is depends on two characters at most and
on whether there is an end to what they begin. The six ways it can go are the cases of `Front`
(`Source.front_next`); all that is known about a scan follows from them by induction on it.
-/

namespace DexQuery
namespace Source

/-- The characters that open a literal. -/
def IsQuote (c : Char) : Prop := c = '"' ∨ c = '\''

instance (c : Char) : Decidable (IsQuote c) := inferInstanceAs (Decidable (_ ∨ _))

theorem IsQuote.ne_backslash {q : Char} (h : IsQuote q) : q ≠ '\\' := by
  rintro rfl
  exact absurd h (by decide)

theorem next_literal {q : Char} (hq : IsQuote q) {r body rest : List Char}
    (h : literalBody? q r = some (body, rest)) : next q r = (.literal q body, rest) := by
  have hquote : q = '"' ∨ q = '\'' := hq
  simp [next, hquote, h]

theorem next_stray {q : Char} (hq : IsQuote q) {r : List Char} (h : literalBody? q r = none) :
    next q r = (.stray q, r) := by
  have hquote : q = '"' ∨ q = '\'' := hq
  simp [next, hquote, h]

theorem next_lineComment (r : List Char) : next '/' ('/' :: r) =
    (.lineComment (r.takeWhile (· ≠ '\n')), r.dropWhile (· ≠ '\n')) := rfl

theorem next_blockComment {r body rest : List Char} (h : closeComment? r = some (body, rest)) :
    next '/' ('*' :: r) = (.blockComment body, rest) := by
  simp [next, h]

theorem next_openComment {r : List Char} (h : closeComment? r = none) :
    next '/' ('*' :: r) = (.openComment r, []) := by
  simp [next, h]

/-- The character opens a comment with the first of those behind it. -/
def OpensComment (c : Char) (r : List Char) : Prop :=
  c = '/' ∧ (r.head? = some '/' ∨ r.head? = some '*')

theorem next_plain {c : Char} {r : List Char} (hq : ¬ IsQuote c) (hcomment : ¬ OpensComment c r) :
    next c r = (.plain c, r) := by
  have hquote : ¬ (c = '"' ∨ c = '\'') := hq
  unfold next
  rw [if_neg hquote]
  by_cases hc : c = '/'
  · subst hc
    rw [if_pos rfl]
    split
    · exact absurd ⟨rfl, .inl rfl⟩ hcomment
    · exact absurd ⟨rfl, .inr rfl⟩ hcomment
    · rfl
  · rw [if_neg hc]

/-- The token at the front of `c :: r` and what is left behind it, by the ways that there are. -/
inductive Front : Char → List Char → Token × List Char → Prop
  | literal {q : Char} {r body rest : List Char} (hq : IsQuote q)
      (h : literalBody? q r = some (body, rest)) : Front q r (.literal q body, rest)
  | stray {q : Char} {r : List Char} (hq : IsQuote q) (h : literalBody? q r = none) :
      Front q r (.stray q, r)
  | lineComment (r : List Char) : Front '/' ('/' :: r)
      (.lineComment (r.takeWhile (· ≠ '\n')), r.dropWhile (· ≠ '\n'))
  | blockComment {r body rest : List Char} (h : closeComment? r = some (body, rest)) :
      Front '/' ('*' :: r) (.blockComment body, rest)
  | openComment {r : List Char} (h : closeComment? r = none) :
      Front '/' ('*' :: r) (.openComment r, [])
  | plain {c : Char} {r : List Char} (hq : ¬ IsQuote c) (hcomment : ¬ OpensComment c r) :
      Front c r (.plain c, r)

/-- **Nothing else stands at the front of a text.** -/
theorem front_next (c : Char) (r : List Char) : Front c r (next c r) := by
  by_cases hq : IsQuote c
  · cases h : literalBody? c r with
    | none => exact next_stray hq h ▸ .stray hq h
    | some p => exact next_literal hq h ▸ .literal hq h
  · by_cases hcomment : OpensComment c r
    · obtain ⟨rfl, hhead⟩ := hcomment
      rcases hhead with hhead | hhead
      · obtain ⟨r, rfl⟩ := List.head?_eq_some_iff.1 hhead
        exact .lineComment r
      · obtain ⟨r, rfl⟩ := List.head?_eq_some_iff.1 hhead
        cases h : closeComment? r with
        | none => exact next_openComment h ▸ .openComment h
        | some p => exact next_blockComment h ▸ .blockComment h
    · exact next_plain hq hcomment ▸ .plain hq hcomment

/-- Tokens that follow others are placed behind their text. -/
theorem placed_append (n : Nat) (ts us : List Token) :
    placed n (ts ++ us) = placed n ts ++ placed (n + Text.size (ts.flatMap Token.text)) us := by
  induction ts generalizing n with
  | nil => rfl
  | cons t ts ih =>
    rw [List.cons_append, placed, ih, placed, List.flatMap_cons, Text.size_append, Nat.add_assoc,
      List.cons_append]

end Source
end DexQuery
