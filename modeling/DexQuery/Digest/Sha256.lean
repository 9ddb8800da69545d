import DexQuery.Text.Hex

/-!
# SHA-256

The digest of a string of bytes. The message is padded with a one bit, zeros and its length in
bits to a multiple of 64 bytes; each block of 64 bytes is expanded to 64 words and mixed into the
eight words of the state.
-/

namespace DexQuery
namespace Sha256

/-- The first 32 bits of the fractional parts of the cube roots of the first 64 primes. -/
def roundConstants : Array UInt32 :=
  #[0x428a2f98, 0x71374491, 0xb5c0fbcf, 0xe9b5dba5, 0x3956c25b, 0x59f111f1, 0x923f82a4, 0xab1c5ed5,
    0xd807aa98, 0x12835b01, 0x243185be, 0x550c7dc3, 0x72be5d74, 0x80deb1fe, 0x9bdc06a7, 0xc19bf174,
    0xe49b69c1, 0xefbe4786, 0x0fc19dc6, 0x240ca1cc, 0x2de92c6f, 0x4a7484aa, 0x5cb0a9dc, 0x76f988da,
    0x983e5152, 0xa831c66d, 0xb00327c8, 0xbf597fc7, 0xc6e00bf3, 0xd5a79147, 0x06ca6351, 0x14292967,
    0x27b70a85, 0x2e1b2138, 0x4d2c6dfc, 0x53380d13, 0x650a7354, 0x766a0abb, 0x81c2c92e, 0x92722c85,
    0xa2bfe8a1, 0xa81a664b, 0xc24b8b70, 0xc76c51a3, 0xd192e819, 0xd6990624, 0xf40e3585, 0x106aa070,
    0x19a4c116, 0x1e376c08, 0x2748774c, 0x34b0bcb5, 0x391c0cb3, 0x4ed8aa4a, 0x5b9cca4f, 0x682e6ff3,
    0x748f82ee, 0x78a5636f, 0x84c87814, 0x8cc70208, 0x90befffa, 0xa4506ceb, 0xbef9a3f7, 0xc67178f2]

/-- The eight words that a block is mixed into. -/
structure State where
  a : UInt32
  b : UInt32
  c : UInt32
  d : UInt32
  e : UInt32
  f : UInt32
  g : UInt32
  h : UInt32

/-- The first 32 bits of the fractional parts of the square roots of the first eight primes. -/
def State.start : State :=
  ⟨0x6a09e667, 0xbb67ae85, 0x3c6ef372, 0xa54ff53a, 0x510e527f, 0x9b05688c, 0x1f83d9ab, 0x5be0cd19⟩

/-- `x` rotated right by `n` bits. -/
def rotr (x n : UInt32) : UInt32 := (x >>> n) ||| (x <<< (32 - n))

/-- One of the 64 rounds, with its constant `k` and its word `w` of the expanded block. -/
def State.round (s : State) (k w : UInt32) : State :=
  let s1 := rotr s.e 6 ^^^ rotr s.e 11 ^^^ rotr s.e 25
  let choice := (s.e &&& s.f) ^^^ (~~~ s.e &&& s.g)
  let t1 := s.h + s1 + choice + k + w
  let s0 := rotr s.a 2 ^^^ rotr s.a 13 ^^^ rotr s.a 22
  let majority := (s.a &&& s.b) ^^^ (s.a &&& s.c) ^^^ (s.b &&& s.c)
  ⟨t1 + (s0 + majority), s.a, s.b, s.c, s.d + t1, s.e, s.f, s.g⟩

/-- Adds two states word by word. -/
def State.add (s t : State) : State :=
  ⟨s.a + t.a, s.b + t.b, s.c + t.c, s.d + t.d, s.e + t.e, s.f + t.f, s.g + t.g, s.h + t.h⟩

/-- Appends the next word to an expanded block of at least 16 words. -/
def extend (w : Array UInt32) : Array UInt32 :=
  let back (n : Nat) : UInt32 := w.getD (w.size - n) 0
  let x := back 15
  let y := back 2
  let s0 := rotr x 7 ^^^ rotr x 18 ^^^ (x >>> 3)
  let s1 := rotr y 17 ^^^ rotr y 19 ^^^ (y >>> 10)
  w.push (back 16 + s0 + back 7 + s1)

/-- The big-endian word at byte `i`. -/
def wordAt (m : ByteArray) (i : Nat) : UInt32 :=
  let byte (j : Nat) : UInt32 := if h : i + j < m.size then m[i + j].toUInt32 else 0
  (byte 0 <<< 24) ||| (byte 1 <<< 16) ||| (byte 2 <<< 8) ||| byte 3

/-- The 64 words of the block that starts at byte `i`. -/
def expand (m : ByteArray) (i : Nat) : Array UInt32 :=
  let w : Array UInt32 := Nat.fold 16 (fun j _ w => w.push (wordAt m (i + 4 * j))) #[]
  Nat.fold 48 (fun _ _ w => extend w) w

/-- Mixes the block that starts at byte `i` into the state. -/
def State.absorb (s : State) (m : ByteArray) (i : Nat) : State :=
  let w := expand m i
  s.add (Nat.fold 64 (fun j _ t => t.round (roundConstants.getD j 0) (w.getD j 0)) s)

/-- The message followed by a one bit, zeros and its length in bits, a multiple of 64 bytes. -/
def pad (m : ByteArray) : ByteArray :=
  let bits := 8 * m.size
  let zeros := (119 - m.size % 64) % 64
  let m := Nat.fold zeros (fun _ _ (m : ByteArray) => m.push 0) (m.push 0x80)
  Nat.fold 8 (fun j _ (m : ByteArray) => m.push (UInt8.ofNat (bits >>> (8 * (7 - j))))) m

/-- The four bytes of a word, most significant first. -/
def wordBytes (w : UInt32) : List UInt8 :=
  [(w >>> 24).toUInt8, (w >>> 16).toUInt8, (w >>> 8).toUInt8, w.toUInt8]

/-- The 32 bytes of the digest. -/
def digest (m : ByteArray) : List UInt8 :=
  let p := pad m
  let s := Nat.fold (p.size / 64) (fun j _ (s : State) => s.absorb p (64 * j)) State.start
  [s.a, s.b, s.c, s.d, s.e, s.f, s.g, s.h].flatMap wordBytes

/-- The digest in lowercase hexadecimal. -/
def hex (m : ByteArray) : String := Text.hexBytes (digest m)

end Sha256
end DexQuery
