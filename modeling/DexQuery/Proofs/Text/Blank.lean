import DexQuery.Text.Blank

/-!
# Trimmed text

A text is trimmed if it is not empty and has no blank at either end. What is left of a text without
the blanks around it is trimmed, unless nothing is left (`Text.trimmed_trim`).
-/

namespace DexQuery
namespace Text

/-- A text that is not empty and neither begins nor ends with a blank. -/
structure Trimmed (cs : List Char) : Prop where
  nonempty : cs ≠ []
  first : ∀ c, cs.head? = some c → isBlank c = false
  last : ∀ c, cs.getLast? = some c → isBlank c = false

/-- What is left after dropping begins with a character that is kept. -/
theorem not_of_head?_dropWhile {p : Char → Bool} {cs : List Char} {c : Char}
    (h : (cs.dropWhile p).head? = some c) : p c = false := by
  have hhead := List.head?_dropWhile_not p cs
  rw [h] at hhead
  exact hhead

/-- A prefix that is not empty begins as the whole does. -/
theorem head?_eq_of_begins {as bs : List Char} (h : as <+: bs) (hne : as ≠ []) :
    as.head? = bs.head? := by
  obtain ⟨rest, rfl⟩ := h
  rw [List.head?_append, Option.or_of_isSome (List.isSome_head?.2 hne)]

/-- **What trimming leaves is trimmed**, if it leaves anything. -/
theorem trimmed_trim {cs : List Char} (h : trim cs ≠ []) : Trimmed (trim cs) where
  nonempty := h
  first c hc := by
    -- The second cut takes away from the end only, so the beginning is that after the first.
    have hprefix : trim cs <+: cs.dropWhile isBlank := by
      rw [trim, ← List.reverse_suffix, List.reverse_reverse]
      exact List.dropWhile_suffix isBlank
    rw [head?_eq_of_begins hprefix h] at hc
    exact not_of_head?_dropWhile hc
  last c hc := by
    rw [trim, List.getLast?_reverse] at hc
    exact not_of_head?_dropWhile hc

end Text
end DexQuery
