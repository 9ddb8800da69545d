import DexQuery.CharSet.Basic

/-!
# Characters as sequences of bytes

A span of characters is matched byte by byte in UTF-8. Spans are cut so that in each part the bytes
vary on their own: the encodings in a part are the sequences that take each byte from a span of
bytes. A part holds encodings of one length, and except in the first bytes that differ it runs over
whole blocks of 64, of 64 times 64 and of 64 times 64 times 64 characters.
-/

namespace DexQuery
namespace Pattern

/-- The bytes from `first` to `last`. -/
structure ByteSpan where
  first : UInt8
  last : UInt8
deriving DecidableEq

/-- A span cut after a code point, if it runs over it. -/
def cutAfter (n : Nat) (s : Span) : List Span :=
  if s.first ≤ n ∧ n < s.last then [⟨s.first, n⟩, ⟨n + 1, s.last⟩] else [s]

/-- A span without surrogates in it. -/
def cutAtSurrogates (s : Span) : List Span :=
  if s.first < 0xE000 ∧ 0xD7FF < s.last then [⟨s.first, 0xD7FF⟩, ⟨0xE000, s.last⟩] else [s]

/-- A span cut so that each part lies in one block of the first size, or runs over whole blocks of
it, and likewise of each further size. -/
def cutIntoBlocks : List Nat → Span → List Span
  | [], s => [s]
  | size :: sizes, s =>
    if s.first / size = s.last / size then cutIntoBlocks sizes s
    else
      let first := (s.first + size - 1) / size * size
      let last := (s.last + 1) / size * size
      (if s.first < first then cutIntoBlocks sizes ⟨s.first, first - 1⟩ else []) ++
        (if first < last then cutIntoBlocks sizes ⟨first, last - 1⟩ else []) ++
        (if last ≤ s.last then cutIntoBlocks sizes ⟨last, s.last⟩ else [])

/-- The parts of a span in which the bytes vary on their own. -/
def utf8Parts (s : Span) : List Span :=
  let cuts := [0x7F, 0x7FF, 0xFFFF].foldl (fun ss n => ss.flatMap (cutAfter n)) (cutAtSurrogates s)
  cuts.flatMap fun s => if s.last < 0x80 then [s] else cutIntoBlocks [0x40, 0x1000, 0x40000] s

/-- The spans of the bytes of a part. -/
def byteSpans (s : Span) : List ByteSpan :=
  List.zipWith ByteSpan.mk (String.utf8EncodeChar (Char.ofNat s.first))
    (String.utf8EncodeChar (Char.ofNat s.last))

/-- The sequences of spans of bytes that the characters of a set are encoded by. -/
def byteSequences (s : CharSet) : List (List ByteSpan) :=
  s.spans.toList.flatMap fun s => (utf8Parts s).map byteSpans

end Pattern
end DexQuery
