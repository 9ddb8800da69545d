import DexQuery.Text.Offset
import DexQuery.Proofs.Text.ByteOrder

/-!
# The bytes of characters

Texts are read by their characters, and offsets into them are counted in bytes. The two meet here:
the size of a text is the number of its bytes (`Text.length_encode`), and a byte below 128 stands
for the character of that number and is no part of another one (`Text.mem_encodeChar_iff`).
-/

namespace DexQuery
namespace Text

/-- The UTF-8 bytes of characters. -/
def encode (cs : List Char) : List UInt8 := cs.flatMap String.utf8EncodeChar

@[simp] theorem encode_nil : encode [] = [] := rfl

@[simp] theorem encode_cons (c : Char) (r : List Char) :
    encode (c :: r) = String.utf8EncodeChar c ++ encode r := List.flatMap_cons

@[simp] theorem encode_append (cs ds : List Char) : encode (cs ++ ds) = encode cs ++ encode ds :=
  List.flatMap_append

@[simp] theorem length_encode (cs : List Char) : (encode cs).length = size cs := by
  induction cs with
  | nil => rfl
  | cons c r ih => rw [encode_cons, List.length_append, ih, String.length_utf8EncodeChar, size_cons]

theorem bytes_eq_encode (s : String) : bytes s = encode s.toList := bytes_eq s

theorem size_eq_utf8ByteSize (cs : List Char) : size cs = (String.ofList cs).utf8ByteSize := by
  have hbytes := congrArg List.length (bytes_eq_encode (String.ofList cs))
  rw [length_encode, String.toList_ofList] at hbytes
  exact hbytes.symm

/-! ## Bytes below 128 -/

/-- The character is encoded as one byte. -/
def IsAscii (c : Char) : Prop := c.val.toNat < 128

instance (c : Char) : Decidable (IsAscii c) := inferInstanceAs (Decidable (_ < _))

theorem IsAscii.toNat_toUInt8 {c : Char} (h : IsAscii c) : c.toUInt8.toNat = c.val.toNat := by
  have hlt : c.val.toNat < 128 := h
  rw [Char.toUInt8, UInt32.toNat_toUInt8]
  omega

theorem IsAscii.toUInt8_inj {c d : Char} (hc : IsAscii c) (hd : IsAscii d) :
    c.toUInt8 = d.toUInt8 ↔ c = d := by
  rw [← UInt8.toNat_inj, hc.toNat_toUInt8, hd.toNat_toUInt8, UInt32.toNat_inj, Char.ext_iff]

theorem IsAscii.encodeChar {c : Char} (h : IsAscii c) : String.utf8EncodeChar c = [c.toUInt8] := by
  have hlt : c.val.toNat < 128 := h
  have hsize : c.utf8Size = 1 := by
    rw [Char.utf8Size_eq_one_iff, UInt32.le_iff_toNat_le]
    exact Nat.le_of_lt_succ hlt
  rw [String.utf8EncodeChar_eq_singleton hsize]
  rfl

theorem IsAscii.utf8Size {c : Char} (h : IsAscii c) : c.utf8Size = 1 := by
  rw [← String.length_utf8EncodeChar, h.encodeChar, List.length_singleton]

theorem IsAscii.encode_cons {c : Char} (h : IsAscii c) (r : List Char) :
    encode (c :: r) = c.toUInt8 :: encode r := by
  rw [Text.encode_cons, h.encodeChar, List.singleton_append]

/-- All bytes of the other characters are above. -/
theorem le_of_mem_encodeChar {c : Char} (h : ¬ IsAscii c) {b : UInt8}
    (hb : b ∈ String.utf8EncodeChar c) : 128 ≤ b.toNat := by
  have hc : ¬ c.val.toNat ≤ 127 := fun hle => h (Nat.lt_succ_of_le hle)
  rw [String.utf8EncodeChar.eq_1, if_neg hc] at hb
  -- What is left are the lengths from two bytes on; each byte holds six bits above a marker.
  split_ifs at hb <;>
  · simp only [List.mem_cons, List.not_mem_nil, or_false, ← UInt8.toNat_inj, UInt8.toNat_ofNat',
      Nat.reducePow] at hb
    omega

/-- **A byte below 128 stands for its character**, and for no part of another one. -/
theorem mem_encodeChar_iff {x : Char} (hx : IsAscii x) {c : Char} :
    x.toUInt8 ∈ String.utf8EncodeChar c ↔ c = x := by
  by_cases hc : IsAscii c
  · rw [hc.encodeChar, List.mem_singleton, hx.toUInt8_inj hc, eq_comm]
  · have hlt : x.val.toNat < 128 := hx
    constructor
    · intro h
      have hle := le_of_mem_encodeChar hc h
      rw [hx.toNat_toUInt8] at hle
      omega
    · rintro rfl
      exact absurd hx hc

theorem head?_encode_eq_iff {x : Char} (hx : IsAscii x) {cs : List Char} :
    (encode cs).head? = some x.toUInt8 ↔ cs.head? = some x := by
  cases cs with
  | nil => simp
  | cons c r =>
    rw [encode_cons, List.head?_cons, Option.some.injEq]
    by_cases hc : IsAscii c
    · rw [hc.encodeChar, List.singleton_append, List.head?_cons, Option.some.injEq,
        hc.toUInt8_inj hx]
    · have hne : c ≠ x := by
        rintro rfl
        exact hc hx
      refine ⟨fun h => ?_, fun h => absurd h hne⟩
      have hfront : (String.utf8EncodeChar c).head? = some x.toUInt8 := by
        rwa [List.head?_append_of_ne_nil _ String.utf8EncodeChar_ne_nil] at h
      exact (mem_encodeChar_iff hx).1 (List.mem_of_head? hfront)

end Text
end DexQuery
