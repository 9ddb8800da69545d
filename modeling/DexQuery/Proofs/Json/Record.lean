import DexQuery.Json.Decode
import DexQuery.Proofs.Json.Ordered

/-!
# Records in values

The members of an object are read as the fields of a record by looking them up
(`Json.Decode.fields_toDocument`). What is read of a field is told by the value of its member: of a
field that must be present (`Json.Decode.required_eq_some_iff`), of one that has a default
(`Json.Decode.withDefault_eq_some_iff`), and of one that may be null
(`Json.Decode.optional_eq_none_iff`, `Json.Decode.optional_eq_some_iff`).
-/

namespace DexQuery
namespace Json

theorem height_le_of_mem {ms : List (String × Json)} {m : String × Json} (h : m ∈ ms) :
    m.2.height ≤ membersHeight ms := by
  induction ms with
  | nil => cases h
  | cons e ms ih =>
    rw [membersHeight]
    rcases List.mem_cons.1 h with rfl | h
    · exact Nat.le_max_left ..
    · exact Nat.le_trans (ih h) (Nat.le_max_right ..)

namespace Decode

variable {α : Type} {n : Nat} {ms : List (String × Json)} {x : Json}

/-! ## Fields -/

/-- The members of an object as the fields of a record. -/
def Fields.ofMembers (n : Nat) (ms : List (String × Json)) : Fields :=
  ⟨n, Keyed.mapValues toDocument ms⟩

theorem keyed?_memberDocuments (ms : List (String × Json)) :
    keyed? (memberDocuments ms) = some (Keyed.mapValues toDocument ms) := by
  induction ms with
  | nil => rfl
  | cons m ms ih =>
    rw [memberDocuments, keyed?, ih]
    rfl

/-- No key of a map is that of two members. -/
theorem noRepeats_of_ascending {docs : List (String × Document)} (h : Keyed.Ascending docs)
    (names : List String) : noRepeats names docs = true := by
  refine List.all_eq_true.2 fun name _ => decide_eq_true ?_
  rw [← List.countP_eq_length_filter]
  have hcount := List.nodup_iff_count.1 h.nodup_keys name
  rwa [List.count, Keyed.keys, List.countP_map] at hcount

theorem fields_toDocument (h : Keyed.Ascending ms) (names : List String) :
    fields names (membersHeight ms + 2) (object ms).toDocument =
      some (.ofMembers (membersHeight ms + 1) ms) := by
  rw [toDocument, fields, if_neg (by omega), keyed?_memberDocuments, Option.bind_eq_bind,
    Option.bind_some, noRepeats_of_ascending (h.mapValues toDocument), if_pos rfl]
  rfl

theorem find?_ofMembers (name : String) :
    (Fields.ofMembers n ms).find? name = (Keyed.get? name ms).map toDocument := by
  rw [← Keyed.get?_mapValues, Fields.find?, Fields.ofMembers]
  induction Keyed.mapValues toDocument ms with
  | nil => rfl
  | cons e r ih =>
    rw [List.find?_cons, Keyed.get?]
    by_cases he : e.1 = name
    · rw [if_pos he, beq_iff_eq.2 he]
      rfl
    · rw [if_neg he, beq_eq_false_iff_ne.2 he]
      exact ih

/-- A field that must be present is read from its member. -/
theorem required_eq_some_iff {name : String} {d : Decoder α} {y : α} :
    (Fields.ofMembers n ms).required name d = some y ↔
      ∃ x, Keyed.get? name ms = some x ∧ d n x.toDocument = some y := by
  rw [Fields.required, find?_ofMembers, Option.bind_map, Option.bind_eq_some_iff]
  rfl

/-- A field with a default is read from its member, or it is the default. -/
theorem withDefault_eq_some_iff {name : String} {default : α} {d : Decoder α} {y : α} :
    (Fields.ofMembers n ms).withDefault name default d = some y ↔
      Keyed.get? name ms = none ∧ y = default ∨
        ∃ x, Keyed.get? name ms = some x ∧ d n x.toDocument = some y := by
  rw [Fields.withDefault, find?_ofMembers]
  cases Keyed.get? name ms with
  | none => simp [eq_comm]
  | some x => simp [Fields.ofMembers]

/-! ## Values of fields -/

theorem bool_eq_some_iff {b : Bool} : bool n x.toDocument = some b ↔ x = .bool b := by
  cases x <;> simp [toDocument, bool]

theorem text_eq_some_iff {s : String} : text n x.toDocument = some s ↔ x = .string s := by
  cases x <;> simp [toDocument, text]

theorem mapM_text_eq_some_iff {items : List Json} {ss : List String} :
    (itemDocuments items).mapM (text n) = some ss ↔ items = ss.map .string := by
  induction items generalizing ss with
  | nil => simp [itemDocuments, eq_comm]
  | cons x items ih =>
    simp only [itemDocuments, List.mapM_cons, Option.bind_eq_bind, Option.bind_eq_some_iff,
      text_eq_some_iff, ih, Option.pure_def, Option.some.injEq]
    constructor
    · rintro ⟨s, rfl, ss, rfl, rfl⟩
      rfl
    · intro h
      obtain ⟨s, ss, rfl, hs, hss⟩ := List.map_eq_cons_iff.1 h.symm
      exact ⟨s, hs.symm, ss, hss.symm, rfl⟩

theorem texts_eq_some_iff (hn : x.height < n) {ss : List String} :
    list text n x.toDocument = some ss ↔ x = .strings ss := by
  cases x with
  | array items =>
    rw [height] at hn
    rw [toDocument, list, if_neg (by omega), mapM_text_eq_some_iff, strings, array.injEq]
  | null | bool | number | string | object => simp [toDocument, list, strings]

/-! ## Optional fields -/

/-- Nothing is read where there is no member or null. -/
theorem optional_eq_none_iff {name : String} {d : Decoder α} :
    (Fields.ofMembers n ms).withDefault name none (optional d) = some none ↔
      Keyed.get? name ms = none ∨ Keyed.get? name ms = some .null := by
  rw [withDefault_eq_some_iff]
  refine or_congr (and_iff_left rfl) ?_
  constructor
  · rintro ⟨x, hx, hread⟩
    cases x with
    | null => exact hx
    | bool | number | string | array | object => simp [toDocument, optional] at hread
  · intro h
    exact ⟨_, h, rfl⟩

/-- What is read elsewhere is what the member is read as. -/
theorem optional_eq_some_iff {name : String} {d : Decoder α} {y : α} :
    (Fields.ofMembers n ms).withDefault name none (optional d) = some (some y) ↔
      ∃ x, Keyed.get? name ms = some x ∧ x ≠ .null ∧ d n x.toDocument = some y := by
  rw [withDefault_eq_some_iff, or_iff_right (fun h => nomatch h.2)]
  refine exists_congr fun x => and_congr_right fun _ => ?_
  cases x with
  | null => simp [toDocument, optional]
  | bool | number | string | array | object => simp [toDocument, optional]

/-- What is read as something is ordered and not null. -/
theorem definite_of_optional {doc : Document} {y : Json}
    (h : optional json n doc = some (some y)) : y.Definite := by
  unfold optional at h
  split at h
  · cases h
  · rename_i hne
    obtain ⟨x, hx, heq⟩ := Option.map_eq_some_iff.1 h
    obtain rfl := Option.some.inj heq
    refine ⟨ordered_of_value? doc hx, ?_⟩
    rintro rfl
    cases doc with
    | null => exact hne rfl
    | bool | number | string => simp [json, Document.value?] at hx
    | array items | object members =>
      rw [json, Document.value?] at hx
      split_ifs at hx
      simp [Json.ofMembers] at hx

/-! ## Members of an object -/

/-- What is found in an object is not nested deeper than the object. -/
theorem height_lt_of_get? {name : String} (h : Keyed.get? name ms = some x) :
    x.height < membersHeight ms + 1 :=
  Nat.lt_succ_of_le (height_le_of_mem (Keyed.mem_of_get? h))

/-- What is found in an ordered object is read as it is. -/
theorem json_of_get? (h : (object ms).Ordered) {name : String} (hx : Keyed.get? name ms = some x) :
    json (membersHeight ms + 1) x.toDocument = some x := by
  have hordered : x.Ordered := (ordered_object_iff.1 h).2 _ (Keyed.mem_of_get? hx)
  rw [json, value?_toDocument x (height_lt_of_get? hx), hordered]

end Decode
end Json
end DexQuery
