import DexQuery.Text.Blank
import Mathlib.Data.List.Basic

/-!
# The lines of a text

A line ends at a newline or, if a carriage return stands before the newline, at that; the last line
may be without an end if there is something on it. `Text.LinesOf` says this of a text and its lines,
and the lines that a text is split into are the ones of which it is true (`Text.linesOf_iff`).
-/

namespace DexQuery
namespace Text

/-- The text consists of the lines, each with its end. -/
inductive LinesOf : List Char → List (List Char) → Prop
  | empty : LinesOf [] []
  | unended {l : List Char} (hne : l ≠ []) (hl : '\n' ∉ l) : LinesOf l [l]
  | ended {l r : List Char} {ls : List (List Char)} (hl : '\n' ∉ l)
      (hreturn : l.getLast? ≠ some '\r') (h : LinesOf r ls) : LinesOf (l ++ '\n' :: r) (l :: ls)
  | endedByReturn {l r : List Char} {ls : List (List Char)} (hl : '\n' ∉ l) (h : LinesOf r ls) :
      LinesOf (l ++ '\r' :: '\n' :: r) (l :: ls)

theorem dropReturn_eq_self {l : List Char} (h : l.getLast? ≠ some '\r') : dropReturn l = l :=
  if_neg h

@[simp] theorem dropReturn_append_return (l : List Char) : dropReturn (l ++ ['\r']) = l := by
  simp [dropReturn]

/-- A line is what it is without a carriage return, or has one at its end. -/
theorem return_cases (l : List Char) :
    l.getLast? ≠ some '\r' ∨ l = dropReturn l ++ ['\r'] := by
  by_cases h : l.getLast? = some '\r'
  · obtain ⟨front, rfl⟩ := List.getLast?_eq_some_iff.1 h
    exact .inr (by rw [dropReturn_append_return])
  · exact .inl h

theorem pieces_of_no_newline {l : List Char} (hl : '\n' ∉ l) : pieces (· == '\n') l = [l] := by
  refine pieces_of_forall_not fun c hc => ?_
  rw [beq_eq_false_iff_ne]
  rintro rfl
  exact hl hc

theorem lines_of_no_newline {l : List Char} (hl : '\n' ∉ l) :
    lines l = if l.isEmpty then [] else [l] := by
  simp [lines, pieces_of_no_newline hl]

/-- The first newline ends the first line. -/
theorem lines_append_newline {l : List Char} (hl : '\n' ∉ l) (r : List Char) :
    lines (l ++ '\n' :: r) = dropReturn l :: lines r := by
  have hpieces : pieces (· == '\n') (l ++ '\n' :: r) = l :: pieces (· == '\n') r := by
    rw [pieces_append_cons (by decide), pieces_of_no_newline hl, List.singleton_append]
  obtain ⟨front, last, hlast⟩ :=
    (pieces (· == '\n') r).eq_nil_or_concat'.resolve_left (pieces_ne_nil _ r)
  simp [lines, hpieces, hlast]

theorem lines_eq_of_linesOf {cs : List Char} {ls : List (List Char)} (h : LinesOf cs ls) :
    lines cs = ls := by
  induction h with
  | empty => rfl
  | unended hne hl => rw [lines_of_no_newline hl, if_neg (by simpa using hne)]
  | ended hl hreturn _ ih => rw [lines_append_newline hl, dropReturn_eq_self hreturn, ih]
  | @endedByReturn l r ls hl _ ih =>
    have hl' : '\n' ∉ l ++ ['\r'] := by simpa using hl
    have hlines := lines_append_newline hl' r
    rw [dropReturn_append_return, ih, List.append_assoc, List.singleton_append] at hlines
    exact hlines

theorem linesOf_lines (cs : List Char) : LinesOf cs (lines cs) := by
  cases hsplit : splitFirst? '\n' cs with
  | none =>
    have hl := splitFirst?_eq_none_iff.1 hsplit
    rw [lines_of_no_newline hl]
    cases cs with
    | nil => exact .empty
    | cons c r => exact .unended (List.cons_ne_nil c r) hl
  | some p =>
    obtain ⟨l, r⟩ := p
    obtain ⟨hcs, hl⟩ := splitFirst?_eq_some_iff.1 hsplit
    have hlt : r.length < cs.length := by
      rw [hcs, List.length_append, List.length_cons]
      omega
    have hrest := linesOf_lines r
    subst hcs
    rw [lines_append_newline hl]
    rcases return_cases l with hreturn | hreturn
    · rw [dropReturn_eq_self hreturn]
      exact .ended hl hreturn hrest
    · have hl' : '\n' ∉ dropReturn l := by
        rw [hreturn] at hl
        simp only [List.mem_append, not_or] at hl
        exact hl.1
      have hcs : l ++ '\n' :: r = dropReturn l ++ '\r' :: '\n' :: r := by
        conv_lhs => rw [hreturn]
        simp
      rw [hcs]
      exact .endedByReturn hl' hrest
termination_by cs.length

/-- **A text is split into its lines.** -/
theorem linesOf_iff {cs : List Char} {ls : List (List Char)} : LinesOf cs ls ↔ lines cs = ls :=
  ⟨lines_eq_of_linesOf, fun h => h ▸ linesOf_lines cs⟩

/-- A text whose lines all end in newlines, and hold no carriage returns. -/
theorem linesOf_flatMap_newline {ls : List (List Char)} (hnewline : ∀ l ∈ ls, '\n' ∉ l)
    (hreturn : ∀ l ∈ ls, '\r' ∉ l) : LinesOf (ls.flatMap fun l => l ++ ['\n']) ls := by
  induction ls with
  | nil => exact .empty
  | cons l ls ih =>
    obtain ⟨hl, hls⟩ := List.forall_mem_cons.1 hnewline
    obtain ⟨hl', hls'⟩ := List.forall_mem_cons.1 hreturn
    have hlast : l.getLast? ≠ some '\r' := fun h => hl' (List.mem_of_getLast? h)
    have htext : (l :: ls).flatMap (fun l => l ++ ['\n']) =
        l ++ '\n' :: ls.flatMap fun l => l ++ ['\n'] := by
      rw [List.flatMap_cons, List.append_assoc, List.singleton_append]
    rw [htext]
    exact .ended hl hlast (ih hls hls')

/-- Lines are joined by putting the separator between them. -/
theorem joinWith_eq_intercalate (sep : List Char) (ls : List (List Char)) :
    joinWith sep ls = sep.intercalate ls := by
  fun_induction joinWith sep ls with
  | case1 => rfl
  | case2 l => simp
  | case3 l ls hne ih =>
    obtain ⟨m, ms, rfl⟩ := List.exists_cons_of_ne_nil (l := ls) (by simpa using hne)
    rw [List.intercalate_cons_cons, ih]

end Text
end DexQuery
