/-!
# Byte offsets into text

Positions in a text are counted in bytes of its UTF-8 form. `size` measures a stretch of text and
`cut?` splits a text at an offset; an offset inside a character splits nothing.
-/

namespace DexQuery
namespace Text

/-- The number of bytes of `cs` in UTF-8. -/
def size : List Char → Nat
  | [] => 0
  | c :: r => c.utf8Size + size r

@[simp] theorem size_nil : size [] = 0 := rfl

@[simp] theorem size_cons (c : Char) (r : List Char) : size (c :: r) = c.utf8Size + size r := rfl

@[simp] theorem size_append (a b : List Char) : size (a ++ b) = size a + size b := by
  induction a with
  | nil => simp
  | cons c r ih => simp [ih, Nat.add_assoc]

theorem length_le_size (cs : List Char) : cs.length ≤ size cs := by
  induction cs with
  | nil => simp
  | cons c r ih => have := c.utf8Size_pos; simp; omega

/-- The text before byte `n` and the text from it on, when `n` lies between two characters. -/
def cut? (n : Nat) : List Char → Option (List Char × List Char)
  | [] => if n = 0 then some ([], []) else none
  | c :: r =>
    if n = 0 then some ([], c :: r)
    else if c.utf8Size ≤ n then (cut? (n - c.utf8Size) r).map fun p => (c :: p.1, p.2)
    else none

theorem cut?_eq_some_iff {n : Nat} {cs a b : List Char} :
    cut? n cs = some (a, b) ↔ cs = a ++ b ∧ size a = n := by
  induction cs generalizing n a with
  | nil =>
    unfold cut?
    split
    · rename_i h
      subst h
      constructor
      · intro h; simp at h; simp [h]
      · rintro ⟨h, _⟩; simp at h; simp [h]
    · rename_i h
      simp only [reduceCtorEq, false_iff, not_and]
      intro hab
      have : a = [] ∧ b = [] := by simpa using hab.symm
      simp [this, Ne.symm h]
  | cons c r ih =>
    have hc := c.utf8Size_pos
    unfold cut?
    split
    · rename_i h
      subst h
      constructor
      · intro h; simp at h; simp [h]
      · rintro ⟨h, hs⟩
        cases a with
        | nil => simpa using h
        | cons d a => simp at hs; have := d.utf8Size_pos; omega
    · rename_i h
      split
      · rename_i hle
        simp only [Option.map_eq_some_iff, Prod.exists, Prod.mk.injEq]
        constructor
        · rintro ⟨x, y, hxy, rfl, rfl⟩
          obtain ⟨h1, h2⟩ := ih.1 hxy
          exact ⟨by simp [h1], by simp [h2]; omega⟩
        · rintro ⟨h1, h2⟩
          cases a with
          | nil => simp at h2; omega
          | cons d a =>
            simp only [List.cons_append, List.cons.injEq] at h1
            obtain ⟨rfl, h1⟩ := h1
            exact ⟨a, b, ih.2 ⟨h1, by simp at h2; omega⟩, rfl, rfl⟩
      · rename_i hle
        simp only [reduceCtorEq, false_iff, not_and]
        intro h1 h2
        cases a with
        | nil => simp at h2; omega
        | cons d a =>
          simp only [List.cons_append, List.cons.injEq] at h1
          obtain ⟨rfl, _⟩ := h1
          simp at h2
          omega

end Text
end DexQuery
