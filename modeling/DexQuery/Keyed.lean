/-!
# Finite maps in key order

A finite map from texts to `α` is the list of its entries, strictly ascending by key. Texts are
ordered by their bytes, which is the order of their characters. `insert` and `erase` keep the
order, and a lookup after either is decided by the key alone, without any premise on the list.
-/

namespace DexQuery
namespace Keyed

variable {α β : Type}

/-- The value stored for `k`. -/
def get? (k : String) : List (String × α) → Option α
  | [] => none
  | e :: r => if e.1 = k then some e.2 else get? k r

/-- Stores `x` for `k`, replacing what was stored for it. -/
def insert (k : String) (x : α) : List (String × α) → List (String × α)
  | [] => [(k, x)]
  | e :: r =>
    if k < e.1 then (k, x) :: e :: r
    else if k = e.1 then (k, x) :: r
    else e :: insert k x r

/-- Forgets what was stored for `k`. -/
def erase (k : String) (m : List (String × α)) : List (String × α) := m.filter fun e => e.1 != k

/-- Whether something is stored for `k`. -/
def contains (k : String) (m : List (String × α)) : Bool := (get? k m).isSome

/-- Replaces what is stored for `k` by `f` of it. -/
def alter (k : String) (f : Option α → α) (m : List (String × α)) : List (String × α) :=
  insert k (f (get? k m)) m

/-- The map of a list of entries, of which a later one wins. -/
def ofList (l : List (String × α)) : List (String × α) :=
  l.foldl (fun m e => insert e.1 e.2 m) []

/-- The keys of a map, in ascending order. -/
def keys (m : List (String × α)) : List String := m.map (·.1)

/-- Strictly ascending by key, so no key occurs twice. -/
def Ascending (m : List (String × α)) : Prop := m.Pairwise fun a b => a.1 < b.1

@[simp] theorem get?_nil (k : String) : get? k ([] : List (String × α)) = none := rfl

@[simp] theorem get?_insert_self (k : String) (x : α) (m : List (String × α)) :
    get? k (insert k x m) = some x := by
  induction m with
  | nil => simp [insert, get?]
  | cons e r ih =>
    unfold insert
    split
    · simp [get?]
    · split
      · simp [get?]
      · rename_i h; simp [get?, Ne.symm h, ih]

theorem get?_insert_of_ne {k l : String} (h : k ≠ l) (x : α) (m : List (String × α)) :
    get? l (insert k x m) = get? l m := by
  induction m with
  | nil => simp [insert, get?, h]
  | cons e r ih =>
    unfold insert
    split
    · simp [get?, h]
    · split
      · rename_i hk; simp [get?, h, ← hk]
      · simp [get?, ih]

theorem get?_erase_self (k : String) (m : List (String × α)) : get? k (erase k m) = none := by
  induction m with
  | nil => rfl
  | cons e r ih =>
    by_cases h : e.1 = k
    · simpa [erase, h] using ih
    · simpa [erase, h, get?] using ih

theorem get?_erase_of_ne {k l : String} (h : k ≠ l) (m : List (String × α)) :
    get? l (erase k m) = get? l m := by
  induction m with
  | nil => rfl
  | cons e r ih =>
    by_cases hk : e.1 = k
    · simpa [erase, hk, get?, h] using ih
    · have hs : erase k (e :: r) = e :: erase k r := by simp [erase, hk]
      simp [hs, get?, ih]

theorem mem_insert {k : String} {x : α} {m : List (String × α)} {e : String × α}
    (h : e ∈ insert k x m) : e = (k, x) ∨ e ∈ m := by
  induction m with
  | nil => simpa [insert] using h
  | cons d r ih =>
    unfold insert at h
    split at h
    · simpa using h
    · split at h
      · rcases List.mem_cons.1 h with h | h
        · exact .inl h
        · exact .inr (List.mem_cons_of_mem _ h)
      · rcases List.mem_cons.1 h with h | h
        · exact .inr (h ▸ List.mem_cons_self ..)
        · exact (ih h).imp_right (List.mem_cons_of_mem _)

theorem mem_of_get? {k : String} {x : α} {m : List (String × α)} (h : get? k m = some x) :
    (k, x) ∈ m := by
  induction m with
  | nil => simp at h
  | cons e r ih =>
    unfold get? at h
    split at h
    · rename_i hk
      obtain rfl := Option.some.inj h
      exact hk ▸ List.mem_cons_self ..
    · exact List.mem_cons_of_mem _ (ih h)

theorem ascending_nil : Ascending ([] : List (String × α)) := List.Pairwise.nil

theorem Ascending.get?_of_mem {m : List (String × α)} (h : Ascending m) {k : String} {x : α}
    (hm : (k, x) ∈ m) : get? k m = some x := by
  induction m with
  | nil => cases hm
  | cons e r ih =>
    have hr := List.pairwise_cons.1 h
    rcases List.mem_cons.1 hm with rfl | hm
    · simp [get?]
    · have hlt : e.1 < k := hr.1 _ hm
      have hne : e.1 ≠ k := fun he => String.lt_irrefl k (he ▸ hlt)
      simp [get?, hne, ih hr.2 hm]

theorem Ascending.insert {m : List (String × α)} (h : Ascending m) (k : String) (x : α) :
    Ascending (insert k x m) := by
  induction m with
  | nil => simp [Keyed.insert, Ascending]
  | cons e r ih =>
    have hr := List.pairwise_cons.1 h
    unfold Keyed.insert
    split
    · rename_i hlt
      refine List.pairwise_cons.2 ⟨fun a ha => ?_, h⟩
      rcases List.mem_cons.1 ha with rfl | ha
      · exact hlt
      · exact String.lt_trans hlt (hr.1 a ha)
    · split
      · rename_i heq
        exact List.pairwise_cons.2 ⟨fun a ha => heq ▸ hr.1 a ha, hr.2⟩
      · rename_i hnlt hne
        have hek : e.1 < k := by
          rcases String.le_total e.1 k with hle | hle
          · exact Decidable.byContradiction fun hn => hne (String.le_antisymm (String.not_lt.1 hn) hle)
          · exact Decidable.byContradiction fun hn => hne (String.le_antisymm hle (String.not_lt.1 hnlt))
        refine List.pairwise_cons.2 ⟨fun a ha => ?_, ih hr.2⟩
        rcases mem_insert ha with rfl | ha
        · exact hek
        · exact hr.1 a ha

theorem Ascending.erase {m : List (String × α)} (h : Ascending m) (k : String) :
    Ascending (erase k m) := List.Pairwise.filter _ h

theorem ascending_ofList (l : List (String × α)) : Ascending (ofList l) := by
  unfold ofList
  suffices ∀ m : List (String × α), Ascending m →
      Ascending (l.foldl (fun m e => Keyed.insert e.1 e.2 m) m) from this [] ascending_nil
  induction l with
  | nil => exact fun _ h => h
  | cons e r ih => exact fun m h => ih _ (h.insert e.1 e.2)

end Keyed
end DexQuery
