import DexQuery.Answer.StringSearch
import DexQuery.Proofs.Keyed
import DexQuery.Proofs.Text.ByteOrder
import Mathlib.Data.List.Induction

/-!
# Hits by value

A search puts its hits one by one into a map from values to places. What comes out is told without
the map (`StringSearch.group_eq`): the different values in the order of their bytes, each with the
different places of the hits that have it, in the order in which the places are first met.
-/

namespace DexQuery

/-! ## Lists without repetitions -/

theorem nodup_eraseDups {α : Type} [BEq α] [LawfulBEq α] : (l : List α) → l.eraseDups.Nodup
  | [] => List.nodup_nil
  | a :: as => by
    rw [List.eraseDups_cons, List.nodup_cons]
    refine ⟨fun ha => ?_, nodup_eraseDups _⟩
    have hne := (List.mem_filter.1 (List.mem_eraseDups.1 ha)).2
    rw [beq_self_eq_true] at hne
    cases hne
termination_by l => l.length
decreasing_by exact Nat.lt_succ_of_le (List.length_filter_le ..)

/-- One more is kept if it has not been met. -/
theorem eraseDups_append_singleton {α : Type} [BEq α] [LawfulBEq α] (l : List α) (a : α) :
    (l ++ [a]).eraseDups = if a ∈ l.eraseDups then l.eraseDups else l.eraseDups ++ [a] := by
  rw [List.eraseDups_append]
  split
  · rename_i ha
    have hmem : a ∈ l := List.mem_eraseDups.1 ha
    simp [List.removeAll, hmem]
  · rename_i ha
    have hnot : a ∉ l := fun h => ha (List.mem_eraseDups.2 h)
    simp [List.removeAll, hnot, List.eraseDups_cons]

namespace Keyed

variable {α : Type}

theorem get?_map_of_mem {f : String → α} {ks : List String} {k : String} (h : k ∈ ks) :
    get? k (ks.map fun k => (k, f k)) = some (f k) := by
  induction ks with
  | nil => cases h
  | cons l ks ih =>
    rw [List.map_cons, get?]
    split
    · rename_i hl
      rw [show l = k from hl]
    · rename_i hl
      exact ih ((List.mem_cons.1 h).resolve_left (Ne.symm hl))

theorem get?_map_of_not_mem {f : String → α} {ks : List String} {k : String} (h : k ∉ ks) :
    get? k (ks.map fun k => (k, f k)) = none := by
  cases hget : get? k (ks.map fun k => (k, f k)) with
  | none => rfl
  | some x =>
    obtain ⟨l, hl, heq⟩ := List.mem_map.1 (mem_of_get? hget)
    obtain ⟨rfl, -⟩ := Prod.mk.inj heq
    exact absurd hl h

end Keyed

namespace StringSearch

/-- The different values of hits, in the order of their bytes. -/
def values (hits : List Hit) : List String :=
  (hits.map (·.value)).eraseDups.mergeSort fun v w => decide (Text.bytes v ≤ Text.bytes w)

/-- The different places of the hits with a value, in the order in which they are first met. -/
def places (hits : List Hit) (v : String) : List Place :=
  ((hits.filter fun h => h.value == v).map (·.place)).eraseDups

variable {hits : List Hit} {h : Hit} {v : String}

/-! ## Values and places -/

theorem mem_values : v ∈ values hits ↔ v ∈ hits.map (·.value) := by
  rw [values, List.mem_mergeSort, List.mem_eraseDups]

/-- No value is repeated, and the values ascend. -/
theorem values_ascending (hits : List Hit) :
    (values hits).Pairwise fun v w => Text.bytes v < Text.bytes w := by
  have hsorted : (values hits).Pairwise fun v w => Text.bytes v ≤ Text.bytes w := by
    refine (List.pairwise_mergeSort ?_ ?_ _).imp of_decide_eq_true
    · intro u v w huv hvw
      exact decide_eq_true (List.le_trans (of_decide_eq_true huv) (of_decide_eq_true hvw))
    · intro v w
      rcases List.le_total (Text.bytes v) (Text.bytes w) with hle | hle <;> simp [hle]
  have hnodup : (values hits).Nodup :=
    (List.mergeSort_perm ..).nodup_iff.2 (nodup_eraseDups _)
  refine (hsorted.and hnodup).imp fun {v w} h => ?_
  obtain ⟨hle, hne⟩ := h
  rw [Text.bytes_le_iff] at hle
  rw [Text.bytes_lt_iff]
  exact Decidable.byContradiction fun hnot => hne (String.le_antisymm hle (String.not_lt.1 hnot))

theorem mem_places {p : Place} : p ∈ places hits v ↔ ⟨v, p⟩ ∈ hits := by
  simp only [places, List.mem_eraseDups, List.mem_map, List.mem_filter, beq_iff_eq]
  constructor
  · rintro ⟨h, ⟨hmem, rfl⟩, rfl⟩
    exact hmem
  · exact fun hmem => ⟨⟨v, p⟩, ⟨hmem, rfl⟩, rfl⟩

theorem places_nodup (hits : List Hit) (v : String) : (places hits v).Nodup := nodup_eraseDups _

theorem places_ne_nil (hv : v ∈ values hits) : places hits v ≠ [] := by
  obtain ⟨h, hmem, rfl⟩ := List.mem_map.1 (mem_values.1 hv)
  exact List.ne_nil_of_mem (mem_places.2 hmem)

/-- A value that no hit has stands nowhere. -/
theorem places_eq_nil (hv : v ∉ hits.map (·.value)) : places hits v = [] := by
  refine List.eq_nil_iff_forall_not_mem.2 fun p hp => hv ?_
  exact List.mem_map_of_mem (mem_places.1 hp)

/-- A hit adds its place to those of its value. -/
theorem places_append_self (hits : List Hit) (h : Hit) :
    places (hits ++ [h]) h.value = addPlace h.place (places hits h.value) := by
  have hlast : [h].filter (fun h' => h'.value == h.value) = [h] := by
    simp only [List.filter_cons, List.filter_nil, beq_self_eq_true, if_true]
  rw [places, List.filter_append, hlast, List.map_append, List.map_singleton,
    eraseDups_append_singleton]
  rfl

theorem places_append_of_ne (hits : List Hit) (hne : h.value ≠ v) :
    places (hits ++ [h]) v = places hits v := by
  have hlast : [h].filter (fun h' => h'.value == v) = [] := by
    simp only [List.filter_cons, List.filter_nil, beq_eq_false_iff_ne.2 hne, Bool.false_eq_true,
      if_false]
  rw [places, List.filter_append, hlast, List.append_nil]
  rfl

/-! ## The map -/

theorem group_append_singleton (hits : List Hit) (h : Hit) : group (hits ++ [h]) =
    Keyed.alter h.value (fun ps => addPlace h.place (ps.getD [])) (group hits) :=
  List.foldl_append ..

theorem group_ascending (hits : List Hit) : Keyed.Ascending (group hits) := by
  induction hits using List.reverseRecOn with
  | nil => exact Keyed.ascending_nil
  | append_singleton hits h ih =>
    rw [group_append_singleton]
    exact ih.insert _ _

theorem get?_group (hits : List Hit) (v : String) : Keyed.get? v (group hits) =
    if v ∈ hits.map (·.value) then some (places hits v) else none := by
  induction hits using List.reverseRecOn with
  | nil => rfl
  | append_singleton hits h ih =>
    rw [group_append_singleton, Keyed.alter, List.map_append, List.map_singleton]
    by_cases hv : h.value = v
    · subst hv
      have hbefore : (Keyed.get? h.value (group hits)).getD [] = places hits h.value := by
        rw [ih]
        split
        · rfl
        · rename_i hnot
          exact (places_eq_nil hnot).symm
      rw [Keyed.get?_insert_self, hbefore, ← places_append_self, if_pos (by simp)]
    · have hmem : v ∈ hits.map (·.value) ++ [h.value] ↔ v ∈ hits.map (·.value) := by
        simp [Ne.symm hv]
      rw [Keyed.get?_insert_of_ne hv, ih, places_append_of_ne hits hv]
      simp only [hmem]

/-- **What a search has found, by value.** -/
theorem group_eq (hits : List Hit) :
    group hits = (values hits).map fun v => (v, places hits v) := by
  have hascending : Keyed.Ascending ((values hits).map fun v => (v, places hits v)) :=
    List.pairwise_map.2 ((values_ascending hits).imp Text.bytes_lt_iff.1)
  refine (group_ascending hits).ext hascending fun v => ?_
  rw [get?_group]
  split
  · rename_i hv
    exact (Keyed.get?_map_of_mem (mem_values.2 hv)).symm
  · rename_i hv
    exact (Keyed.get?_map_of_not_mem fun h => hv (mem_values.1 h)).symm

end StringSearch
end DexQuery
