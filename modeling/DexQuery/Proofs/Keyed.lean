import DexQuery.Keyed
import Mathlib.Logic.Function.Basic

/-!
# Maps as functions and as lists of entries

What is found in a map is a function of the key, which `insert` and `erase` change at one key
(`Keyed.get?_insert`, `Keyed.get?_erase`), and an ascending map is the list of what is found in it
(`Keyed.Ascending.mem_iff`) and no other list is (`Keyed.Ascending.ext`).

A map is built from a list of entries by storing them one after the other. Of entries with different
keys each is found again (`Keyed.get?_ofList_of_mem`), nothing else is
(`Keyed.get?_ofList_of_not_mem`), and what is done to every value can as well be done before
(`Keyed.mapValues_ofList`).
-/

namespace DexQuery
namespace Keyed

variable {α β : Type} {k : String} {x : α}

/-- Changes every value. -/
def mapValues (f : α → β) (m : List (String × α)) : List (String × β) := m.map fun e => (e.1, f e.2)

theorem mapValues_append (f : α → β) (l m : List (String × α)) :
    mapValues f (l ++ m) = mapValues f l ++ mapValues f m := List.map_append

theorem get?_mapValues (f : α → β) (k : String) (m : List (String × α)) :
    get? k (mapValues f m) = (get? k m).map f := by
  induction m with
  | nil => rfl
  | cons e r ih =>
    simp only [mapValues, List.map_cons, get?] at ih ⊢
    split
    · rfl
    · exact ih

theorem Ascending.mapValues {m : List (String × α)} (h : Ascending m) (f : α → β) :
    Ascending (mapValues f m) := List.pairwise_map.2 h

/-! ## One entry -/

theorem get?_insert (k : String) (x : α) (m : List (String × α)) (l : String) :
    get? l (insert k x m) = Function.update (fun l => get? l m) k (some x) l := by
  by_cases hl : l = k
  · subst hl
    rw [get?_insert_self, Function.update_self]
  · rw [get?_insert_of_ne (Ne.symm hl), Function.update_of_ne hl]

theorem get?_erase (k : String) (m : List (String × α)) (l : String) :
    get? l (erase k m) = Function.update (fun l => get? l m) k none l := by
  by_cases hl : l = k
  · subst hl
    rw [get?_erase_self, Function.update_self]
  · rw [get?_erase_of_ne (Ne.symm hl), Function.update_of_ne hl]

/-- The entries of an ascending map are what is found in it. -/
theorem Ascending.mem_iff {m : List (String × α)} (h : Ascending m) :
    (k, x) ∈ m ↔ get? k m = some x :=
  ⟨h.get?_of_mem, mem_of_get?⟩

theorem Ascending.nodup {m : List (String × α)} (h : Ascending m) : m.Nodup :=
  List.Pairwise.imp (fun {a b} hlt (heq : a = b) => String.lt_irrefl _ (heq ▸ hlt)) h

theorem Ascending.nodup_keys {m : List (String × α)} (h : Ascending m) : (keys m).Nodup := by
  refine List.pairwise_map.2 (List.Pairwise.imp ?_ h)
  intro a b hlt heq
  rw [heq] at hlt
  exact String.lt_irrefl _ hlt

/-- Ascending maps in which the same is found are the same. -/
theorem Ascending.ext {m m' : List (String × α)} (h : Ascending m) (h' : Ascending m')
    (heq : ∀ k, get? k m = get? k m') : m = m' := by
  have hmem : ∀ e, e ∈ m ↔ e ∈ m' := by
    rintro ⟨k, x⟩
    constructor
    · exact fun he => mem_of_get? ((heq k).symm.trans (h.get?_of_mem he))
    · exact fun he => mem_of_get? ((heq k).trans (h'.get?_of_mem he))
  refine List.Perm.eq_of_pairwise ?_ h h' ((List.perm_ext_iff_of_nodup h.nodup h'.nodup).2 hmem)
  exact fun a b _ _ hab hba => absurd hba (String.lt_asymm hab)

theorem erase_insert_self (k : String) (x : α) (m : List (String × α)) :
    erase k (insert k x m) = erase k m := by
  induction m with
  | nil => simp [insert, erase]
  | cons e r ih =>
    unfold insert
    split
    · simp [erase]
    · split
      · rename_i hk
        simp [erase, ← hk]
      · simp only [erase, List.filter_cons] at ih ⊢
        rw [ih]

/-- What is not stored is not among the entries. -/
theorem ne_of_get?_eq_none {m : List (String × α)} (h : get? k m = none) {e : String × α}
    (he : e ∈ m) : e.1 ≠ k := by
  induction m with
  | nil => cases he
  | cons d r ih =>
    unfold get? at h
    split at h
    · cases h
    · rename_i hd
      rcases List.mem_cons.1 he with rfl | he
      · exact hd
      · exact ih h he

/-- Forgetting what is not stored changes nothing. -/
theorem erase_of_get?_eq_none {m : List (String × α)} (h : get? k m = none) : erase k m = m :=
  List.filter_eq_self.2 fun _ he => bne_iff_ne.2 (ne_of_get?_eq_none h he)

theorem mapValues_insert (f : α → β) (k : String) (x : α) (m : List (String × α)) :
    mapValues f (insert k x m) = insert k (f x) (mapValues f m) := by
  induction m with
  | nil => rfl
  | cons e r ih =>
    simp only [insert, mapValues, List.map_cons] at ih ⊢
    split
    · rfl
    · split
      · rfl
      · rw [List.map_cons, ih]

/-! ## A list of entries -/

/-- Stores entries one after the other. -/
def insertAll (l m : List (String × α)) : List (String × α) :=
  l.foldl (fun m e => insert e.1 e.2 m) m

theorem ofList_append_singleton (l : List (String × α)) (k : String) (x : α) :
    ofList (l ++ [(k, x)]) = insert k x (ofList l) := List.foldl_append ..

theorem get?_insertAll_of_not_mem {l : List (String × α)} (h : k ∉ keys l)
    (m : List (String × α)) : get? k (insertAll l m) = get? k m := by
  induction l generalizing m with
  | nil => rfl
  | cons e l ih =>
    obtain ⟨hne, hl⟩ := not_or.1 fun hor => h (List.mem_cons.2 hor)
    calc get? k (insertAll l (insert e.1 e.2 m)) = get? k (insert e.1 e.2 m) := ih hl _
      _ = get? k m := get?_insert_of_ne (Ne.symm hne) ..

theorem get?_insertAll_congr {l m m' : List (String × α)} (h : get? k m = get? k m') :
    get? k (insertAll l m) = get? k (insertAll l m') := by
  induction l generalizing m m' with
  | nil => exact h
  | cons e l ih =>
    refine ih ?_
    by_cases he : e.1 = k
    · subst he
      exact (get?_insert_self ..).trans (get?_insert_self ..).symm
    · exact (get?_insert_of_ne he ..).trans (h.trans (get?_insert_of_ne he ..).symm)

theorem get?_insertAll_of_mem {l : List (String × α)} (hl : (keys l).Nodup) (h : (k, x) ∈ l)
    (m : List (String × α)) : get? k (insertAll l m) = some x := by
  induction l generalizing m with
  | nil => cases h
  | cons e l ih =>
    obtain ⟨hnot, hl⟩ := List.nodup_cons.1 hl
    rcases List.mem_cons.1 h with rfl | h
    · exact (get?_insertAll_of_not_mem hnot _).trans (get?_insert_self ..)
    · exact ih hl h _

theorem get?_ofList_of_not_mem {l : List (String × α)} (h : k ∉ keys l) :
    get? k (ofList l) = none :=
  get?_insertAll_of_not_mem h []

/-- Of entries with different keys each is found. -/
theorem get?_ofList_of_mem {l : List (String × α)} (hl : (keys l).Nodup) (h : (k, x) ∈ l) :
    get? k (ofList l) = some x :=
  get?_insertAll_of_mem hl h []

/-- A map is the map of its entries. -/
theorem Ascending.ofList_eq {m : List (String × α)} (h : Ascending m) : ofList m = m := by
  refine (ascending_ofList m).ext h fun k => ?_
  cases hget : get? k m with
  | some x => exact get?_ofList_of_mem h.nodup_keys (mem_of_get? hget)
  | none =>
    refine get?_ofList_of_not_mem fun hk => ?_
    obtain ⟨e, he, rfl⟩ := List.mem_map.1 hk
    exact ne_of_get?_eq_none hget he rfl

theorem mapValues_ofList (f : α → β) (l : List (String × α)) :
    mapValues f (ofList l) = ofList (mapValues f l) := by
  have hall : ∀ m, mapValues f (insertAll l m) = insertAll (mapValues f l) (mapValues f m) := by
    induction l with
    | nil => exact fun _ => rfl
    | cons e l ih =>
      intro m
      refine (ih (insert e.1 e.2 m)).trans ?_
      rw [mapValues_insert]
      rfl
  exact hall []

end Keyed
end DexQuery
