import DexQuery.Proofs.Text.Encoding
import DexQuery.Text.Pieces

/-!
# Texts by byte indices

A text can also be gone through by the indices of its bytes. A part of it is then cut out between
two indices, which fails where one of them lies within a character or behind the end
(`Text.slice?`). It succeeds where an index is the size of what stands before it, and gives the
characters from there on (`Text.slice?_append`).
-/

namespace DexQuery
namespace Text

/-- The text from byte `i` on, if a character begins or the text ends there. -/
def tail? (cs : List Char) (i : Nat) : Option (List Char) := (cut? i cs).map (·.2)

/-- The text from byte `i` up to byte `j`, if both are between two characters. -/
def slice? (cs : List Char) (i j : Nat) : Option (List Char) :=
  (cut? j cs).bind fun p => tail? p.1 i

/-- The index of the first byte of the first `c`. -/
def find? (c : Char) (cs : List Char) : Option Nat := (splitFirst? c cs).map fun p => size p.1

/-- The index of the first byte of the last `c`. -/
def rfind? (c : Char) (cs : List Char) : Option Nat :=
  (splitFirst? c cs.reverse).map fun p => size p.2

theorem tail?_append (before after : List Char) :
    tail? (before ++ after) (size before) = some after := by
  rw [tail?, cut?_eq_some_iff.2 ⟨rfl, rfl⟩, Option.map_some]

theorem slice?_append (before part after : List Char) :
    slice? (before ++ (part ++ after)) (size before) (size before + size part) = some part := by
  rw [slice?, cut?_eq_some_iff.2 ⟨(List.append_assoc ..).symm, size_append ..⟩, Option.bind_some,
    tail?_append]

theorem size_reverse (cs : List Char) : size cs.reverse = size cs := by
  induction cs with
  | nil => rfl
  | cons c r ih =>
    rw [List.reverse_cons, size_append, ih, size_cons, size_cons, size_nil]
    omega

theorem rfind?_of_not_mem {c : Char} {cs : List Char} (h : c ∉ cs) : rfind? c cs = none := by
  rw [rfind?, splitFirst?_eq_none_iff.2 (by rwa [List.mem_reverse]), Option.map_none]

theorem rfind?_append {c : Char} {after : List Char} (h : c ∉ after) (before : List Char) :
    rfind? c (before ++ c :: after) = some (size before) := by
  have hsplit : splitFirst? c (before ++ c :: after).reverse =
      some (after.reverse, before.reverse) := by
    rw [splitFirst?_eq_some_iff, List.mem_reverse]
    exact ⟨by simp, h⟩
  rw [rfind?, hsplit, Option.map_some, size_reverse]

/-- The bytes from an index on are those of the characters behind it. -/
theorem getElem?_encode_append (before after : List Char) (k : Nat) :
    (encode (before ++ after))[size before + k]? = (encode after)[k]? := by
  rw [encode_append, List.getElem?_append_right (by rw [length_encode]; omega), length_encode,
    Nat.add_sub_cancel_left]

/-- A byte below 128 stands at an index where its character does. -/
theorem getElem?_encode_append_eq_iff {x : Char} (hx : IsAscii x) {before after : List Char} :
    (encode (before ++ after))[size before]? = some x.toUInt8 ↔ after.head? = some x := by
  rw [← Nat.add_zero (size before), getElem?_encode_append, ← List.head?_eq_getElem?,
    head?_encode_eq_iff hx]

/-- The bytes of the character that stands at an index are the bytes from there on. -/
theorem getElem?_encode_char (before r : List Char) {c : Char} {k : Nat} (hk : k < c.utf8Size) :
    ∃ b ∈ String.utf8EncodeChar c, (encode (before ++ c :: r))[size before + k]? = some b := by
  have hlength : k < (String.utf8EncodeChar c).length := by rwa [String.length_utf8EncodeChar]
  refine ⟨_, List.getElem_mem hlength, ?_⟩
  rw [getElem?_encode_append, encode_cons, List.getElem?_append_left hlength,
    List.getElem?_eq_getElem hlength]

/-- A first byte that is below 128 is that of its character. -/
theorem eq_toUInt8_iff {x : Char} (hx : IsAscii x) {c : Char} {b : UInt8}
    (hb : b ∈ String.utf8EncodeChar c) : b = x.toUInt8 ↔ c = x := by
  constructor
  · rintro rfl
    exact (mem_encodeChar_iff hx).1 hb
  · rintro rfl
    rwa [hx.encodeChar, List.mem_singleton] at hb

end Text
end DexQuery
