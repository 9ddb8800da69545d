import Mathlib.Data.List.Nodup
import Mathlib.Data.List.Perm.Basic
import Mathlib.Data.String.Basic

/-!
# Lists in another order

Of a list in which no key is repeated, neither what is found under a key nor the list sorted by keys
hangs on the order in which its elements stand (`find?_eq_of_perm`, `mergeSort_eq_of_perm`).
-/

namespace DexQuery

variable {α : Type} {l l' : List α} {key : α → String}

theorem find?_eq_some_iff_of_nodup (h : (l.map key).Nodup) {k : String} {x : α} :
    (l.find? fun y => key y == k) = some x ↔ x ∈ l ∧ key x = k := by
  constructor
  · intro hx
    have hkey : (key x == k) = true := List.find?_some (p := fun y => key y == k) hx
    exact ⟨List.mem_of_find?_eq_some hx, eq_of_beq hkey⟩
  · rintro ⟨hx, rfl⟩
    have hfound : (l.find? fun y => key y == key x).isSome :=
      List.find?_isSome.2 ⟨x, hx, beq_self_eq_true _⟩
    obtain ⟨y, hy⟩ := Option.isSome_iff_exists.1 hfound
    have hkey : (key y == key x) = true := List.find?_some (p := fun y => key y == key x) hy
    rw [hy, List.inj_on_of_nodup_map h (List.mem_of_find?_eq_some hy) hx (eq_of_beq hkey)]

/-- What is found under a key does not hang on the order. -/
theorem find?_eq_of_perm (h : l.Perm l') (hl : (l.map key).Nodup) (k : String) :
    (l.find? fun x => key x == k) = l'.find? fun x => key x == k := by
  have hl' : (l'.map key).Nodup := (h.map key).nodup_iff.1 hl
  refine Option.ext fun x => ?_
  rw [find?_eq_some_iff_of_nodup hl, find?_eq_some_iff_of_nodup hl', h.mem_iff]

theorem pairwise_mergeSort_key (key : α → String) (l : List α) :
    (l.mergeSort fun a b => decide (key a ≤ key b)).Pairwise fun a b => key a ≤ key b := by
  refine (List.pairwise_mergeSort ?_ ?_ l).imp of_decide_eq_true
  · intro a b c hab hbc
    exact decide_eq_true (String.le_trans (of_decide_eq_true hab) (of_decide_eq_true hbc))
  · intro a b
    rcases String.le_total (key a) (key b) with hle | hle <;> simp [hle]

/-- A list that is sorted by keys does not hang on the order before, as long as elements with the
same key are the same. -/
theorem mergeSort_eq_of_perm (h : l.Perm l') (hkey : ∀ a ∈ l, ∀ b ∈ l, key a = key b → a = b) :
    (l.mergeSort fun a b => decide (key a ≤ key b)) =
      l'.mergeSort fun a b => decide (key a ≤ key b) := by
  have hperm := (List.mergeSort_perm l fun a b => decide (key a ≤ key b)).trans
    (h.trans (List.mergeSort_perm l' fun a b => decide (key a ≤ key b)).symm)
  refine hperm.eq_of_pairwise (fun a b ha hb hab hba => ?_) (pairwise_mergeSort_key key l)
    (pairwise_mergeSort_key key l')
  refine hkey a (List.mem_mergeSort.1 ha) b ?_ (String.le_antisymm hab hba)
  exact h.mem_iff.2 (List.mem_mergeSort.1 hb)

end DexQuery
