import DexQuery.Transport.Rest

/-!
# Addresses

A path is read by its segments, the pieces between slashes that are not empty. Texts that could be
segments are those of the text that joins them (`Rest.segments_intercalate`), so below the address
of a session an operation is reached by the segments of its route and by no others
(`Rest.ofRoute?_intercalate_iff`).
-/

namespace DexQuery
namespace Rest

/-- The text can be a segment: it is not empty and has no slash. -/
def IsSegment (s : String) : Prop := s ≠ "" ∧ '/' ∉ s.toList

/-! ## Segments -/

theorem isSegment_of_mem_segments {s path : String} (h : s ∈ segments path) : IsSegment s := by
  obtain ⟨hmem, hne⟩ := List.mem_filter.1 h
  refine ⟨bne_iff_ne.1 hne, fun hslash => ?_⟩
  obtain ⟨p, hp, rfl⟩ := List.mem_map.1 hmem
  rw [String.toList_ofList] at hslash
  exact absurd (Text.not_sep_of_mem_pieces hp hslash) (by decide)

theorem segments_of_isSegment {s : String} (h : IsSegment s) : segments s = [s] := by
  have hplain : ∀ c ∈ s.toList, (c == '/') = false := by
    intro c hc
    refine beq_eq_false_iff_ne.2 ?_
    rintro rfl
    exact h.2 hc
  have hsplit : Text.split '/' s = [s] := by
    rw [Text.split, Text.pieces_of_forall_not hplain, List.map_singleton, String.ofList_toList]
  have hne : (s != "") = true := bne_iff_ne.2 h.1
  simp only [segments, hsplit, List.filter_cons, List.filter_nil, hne, if_true]

/-- A slash cuts a path in two, each of which has its own segments. -/
theorem segments_append_slash (a b : String) :
    segments (a ++ "/" ++ b) = segments a ++ segments b := by
  have hlist : (a ++ "/" ++ b).toList = a.toList ++ '/' :: b.toList := by
    simp only [String.toList_append, List.append_assoc]
    rfl
  have hpieces : Text.pieces (· == '/') (a ++ "/" ++ b).toList =
      Text.pieces (· == '/') a.toList ++ Text.pieces (· == '/') b.toList := by
    rw [hlist]
    exact Text.pieces_append_cons (by decide) ..
  simp only [segments, Text.split, hpieces, List.map_append, List.filter_append]

/-- Segments that are joined by slashes are read again. -/
theorem segments_intercalate {ss : List String} (h : ∀ s ∈ ss, IsSegment s) :
    segments ("/".intercalate ss) = ss := by
  induction ss with
  | nil => rfl
  | cons s ss ih =>
    obtain ⟨hs, hss⟩ := List.forall_mem_cons.1 h
    cases ss with
    | nil =>
      rw [String.intercalate_singleton]
      exact segments_of_isSegment hs
    | cons s' ss =>
      rw [String.intercalate_cons_cons, segments_append_slash, segments_of_isSegment hs, ih hss]
      rfl

/-! ## Routes -/

theorem intercalate_segments_route (op : Operation) :
    "/".intercalate (segments op.route) = op.route := by
  cases op <;> decide +kernel

theorem ofRoute?_route (op : Operation) : Operation.ofRoute? op.route = some op := by
  cases op <;> decide +kernel

theorem ofRoute?_eq_some_iff {op : Operation} {route : String} :
    Operation.ofRoute? route = some op ↔ op.route = route := by
  constructor
  · intro h
    unfold Operation.ofRoute? at h
    have hroute := List.find?_some h
    exact eq_of_beq hroute
  · rintro rfl
    exact ofRoute?_route op

/-- Segments lead to an operation if and only if they are those of its route. -/
theorem ofRoute?_intercalate_iff {op : Operation} {rest : List String}
    (h : ∀ s ∈ rest, IsSegment s) :
    Operation.ofRoute? ("/".intercalate rest) = some op ↔ rest = segments op.route := by
  rw [ofRoute?_eq_some_iff]
  constructor
  · intro hroute
    rw [hroute, segments_intercalate h]
  · rintro rfl
    exact (intercalate_segments_route op).symm

end Rest
end DexQuery
