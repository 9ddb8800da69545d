import DexQuery.Engine.Json
import DexQuery.Json.Document
import DexQuery.Proofs.Keyed
import Mathlib.Tactic.SplitIfs

/-!
# Values with ordered objects

The members of an object are a finite map, so they ascend by their keys, at every depth of a value.
`Json.ordered` puts a value into this form, and one that is in it already stays as it is
(`Json.Ordered`). Every value that is read is in this form (`Json.ordered_of_value?`), and so is one
that is put together from values in this form. Written as a document and read again, a value comes
back in this form (`Json.value?_toDocument`).
-/

namespace DexQuery

namespace Json

mutual

/-- The value with the members of every object in key order, of which a later one of a key wins. -/
def ordered : Json → Json
  | .array items => .array (orderedItems items)
  | .object members => ofMembers (orderedMembers members)
  | j => j

/-- The items of an array, each with its objects in key order. -/
def orderedItems : List Json → List Json
  | [] => []
  | x :: xs => ordered x :: orderedItems xs

/-- The members of an object, each with its objects in key order. -/
def orderedMembers : List (String × Json) → List (String × Json)
  | [] => []
  | (k, x) :: xs => (k, ordered x) :: orderedMembers xs

end

/-- The members of every object in the value are a finite map. -/
def Ordered (j : Json) : Prop := j.ordered = j

mutual

/-- **A value that is written as a document is read back in key order.** -/
theorem value?_toDocument : (j : Json) → {d : Nat} → height j < d →
    (toDocument j).value? d = some j.ordered
  | .null, _, _ | .bool _, _, _ | .number _, _, _ | .string _, _, _ => rfl
  | .array items, d, h => by
    rw [height] at h
    rw [toDocument, Document.value?, if_neg (by omega), values?_itemDocuments items (by omega)]
    rfl
  | .object members, d, h => by
    rw [height] at h
    rw [toDocument, Document.value?, if_neg (by omega),
      memberValues?_memberDocuments members (by omega)]
    rfl

theorem values?_itemDocuments : (items : List Json) → {d : Nat} → itemsHeight items < d →
    Document.values? d (itemDocuments items) = some (orderedItems items)
  | [], _, _ => rfl
  | x :: xs, d, h => by
    rw [itemsHeight, Nat.max_lt] at h
    rw [itemDocuments, Document.values?, value?_toDocument x h.1, values?_itemDocuments xs h.2]
    rfl

theorem memberValues?_memberDocuments : (members : List (String × Json)) → {d : Nat} →
    membersHeight members < d →
    Document.memberValues? d (memberDocuments members) = some (orderedMembers members)
  | [], _, _ => rfl
  | (k, x) :: xs, d, h => by
    rw [membersHeight, Nat.max_lt] at h
    simp only [memberDocuments, Document.memberValues?, value?_toDocument x h.1,
      memberValues?_memberDocuments xs h.2, orderedMembers]

end

/-! ## Reading -/

theorem orderedItems_eq (xs : List Json) : orderedItems xs = xs.map ordered := by
  induction xs with
  | nil => rfl
  | cons x xs ih => rw [orderedItems, ih, List.map_cons]

theorem orderedMembers_eq (ms : List (String × Json)) :
    orderedMembers ms = Keyed.mapValues ordered ms := by
  induction ms with
  | nil => rfl
  | cons m ms ih =>
    rw [orderedMembers, ih]
    rfl

theorem ordered_ofMembers (ms : List (String × Json)) :
    (ofMembers ms).ordered = ofMembers (Keyed.mapValues ordered ms) := by
  have hascending := (Keyed.ascending_ofList (Keyed.mapValues ordered ms)).ofList_eq
  rw [ofMembers, ordered, orderedMembers_eq, Keyed.mapValues_ofList, ofMembers, hascending]
  rfl

mutual

/-- **The value of a document is ordered.** -/
theorem ordered_of_value? : (doc : Document) → {d : Nat} → {j : Json} → doc.value? d = some j →
    j.Ordered
  | .null, _, _, h | .bool _, _, _, h => by
    obtain rfl := Option.some.inj h
    rfl
  | .number _, _, _, h | .string _, _, _, h => by
    obtain ⟨x, -, rfl⟩ := Option.map_eq_some_iff.1 h
    rfl
  | .array items, d, j, h => by
    rw [Document.value?] at h
    split_ifs at h
    obtain ⟨xs, hxs, rfl⟩ := Option.map_eq_some_iff.1 h
    rw [Ordered, ordered, orderedItems_of_values? items hxs]
  | .object members, d, j, h => by
    rw [Document.value?] at h
    split_ifs at h
    obtain ⟨ms, hms, rfl⟩ := Option.map_eq_some_iff.1 h
    rw [Ordered, ordered_ofMembers, ← orderedMembers_eq,
      orderedMembers_of_memberValues? members hms]

theorem orderedItems_of_values? : (docs : List Document) → {d : Nat} → {xs : List Json} →
    Document.values? d docs = some xs → orderedItems xs = xs
  | [], _, _, h => by
    obtain rfl := Option.some.inj h
    rfl
  | doc :: docs, d, xs, h => by
    rw [Document.values?] at h
    split at h
    · rename_i x ys hx hys
      obtain rfl := Option.some.inj h
      rw [orderedItems, ordered_of_value? doc hx, orderedItems_of_values? docs hys]
    · cases h

theorem orderedMembers_of_memberValues? : (docs : List (Option String × Document)) → {d : Nat} →
    {ms : List (String × Json)} → Document.memberValues? d docs = some ms → orderedMembers ms = ms
  | [], _, _, h => by
    obtain rfl := Option.some.inj h
    rfl
  | (k, doc) :: docs, d, xs, h => by
    simp only [Document.memberValues?] at h
    split at h
    · rename_i k x ys hx hys
      obtain rfl := Option.some.inj h
      rw [orderedMembers, ordered_of_value? doc hx, orderedMembers_of_memberValues? docs hys]
    · cases h

end

/-! ## Values put together -/

theorem mapValues_ordered {ms : List (String × Json)} (h : ∀ m ∈ ms, m.2.Ordered) :
    Keyed.mapValues ordered ms = ms := by
  have hsame : ∀ m ∈ ms, (m.1, m.2.ordered) = m := by
    intro m hm
    rw [h m hm]
  rw [Keyed.mapValues, List.map_congr_left hsame, List.map_id']

theorem ordered_object_iff {ms : List (String × Json)} :
    (object ms).Ordered ↔ Keyed.Ascending ms ∧ ∀ m ∈ ms, m.2.Ordered := by
  rw [Ordered, ordered, ofMembers, orderedMembers_eq, object.injEq]
  constructor
  · intro h
    have hascending : Keyed.Ascending ms := h ▸ Keyed.ascending_ofList _
    rw [(hascending.mapValues ordered).ofList_eq] at h
    refine ⟨hascending, fun m hm => ?_⟩
    have hget := Keyed.get?_mapValues ordered m.1 ms
    rw [h, hascending.get?_of_mem hm, Option.map_some] at hget
    exact (Option.some.inj hget).symm
  · rintro ⟨hascending, hms⟩
    rw [(hascending.mapValues ordered).ofList_eq]
    exact mapValues_ordered hms

/-- What stands in an ordered object is ordered. -/
theorem ordered_of_member? {j x : Json} (h : j.Ordered) {name : String}
    (hx : j.member? name = some x) : x.Ordered := by
  cases j with
  | object ms => exact (ordered_object_iff.1 h).2 _ (Keyed.mem_of_get? hx)
  | null | bool | number | string | array => cases hx

namespace Ordered

@[simp] theorem null : Json.null.Ordered := rfl

@[simp] theorem bool (b : Bool) : (Json.bool b).Ordered := rfl

@[simp] theorem number (n : Number) : (Json.number n).Ordered := rfl

@[simp] theorem string (s : String) : (Json.string s).Ordered := rfl

@[simp] theorem nat (n : Nat) : (Json.nat n).Ordered := rfl

@[simp] theorem optString (s : Option String) : (Json.optString s).Ordered := by
  cases s <;> rfl

@[simp] theorem optNat (n : Option Nat) : (Json.optNat n).Ordered := by
  cases n <;> rfl

theorem array {xs : List Json} (h : ∀ x ∈ xs, x.Ordered) : (Json.array xs).Ordered := by
  rw [Ordered, ordered, orderedItems_eq, List.map_congr_left h, List.map_id']

@[simp] theorem strings (ss : List String) : (Json.strings ss).Ordered :=
  array (List.forall_mem_map.2 fun s _ => string s)

theorem listOf {α : Type} {f : α → Json} (h : ∀ x, (f x).Ordered) (xs : List α) :
    (Json.listOf f xs).Ordered :=
  array (List.forall_mem_map.2 fun x _ => h x)

/-- An object is put in order by its making. -/
theorem ofMembers {ms : List (String × Json)} (h : ∀ m ∈ ms, m.2.Ordered) :
    (Json.ofMembers ms).Ordered := by
  rw [Ordered, ordered_ofMembers, mapValues_ordered h]

end Ordered

/-- The value is ordered and says something. -/
structure Definite (j : Json) : Prop where
  ordered : j.Ordered
  ne_null : j ≠ .null

theorem Definite.ofMembers {ms : List (String × Json)} (h : ∀ m ∈ ms, m.2.Ordered) :
    (Json.ofMembers ms).Definite := ⟨.ofMembers h, nofun⟩

end Json
end DexQuery
