import DexQuery.Proofs.Source.Token
import DexQuery.Proofs.Text.Encoding

/-!
# Source text with its literals and comments blanked out

`Source.mask` goes over the bytes of a source text and puts a blank for every byte of a literal or
of a comment; where one begins that has no end it stops. It looks at bytes alone: a backslash takes
one byte with it, and nothing is known of characters of more than one byte.

Masking goes over the same tokens as the scan of the characters: a token is masked as a whole, or it
is what masking stops at (`Source.mask_encode_cons`). All that a literal or comment is recognised by
is below 128, so no byte of a longer character is taken for it.
-/

namespace DexQuery
namespace Source

open Text

/-! ## Masking -/

/-- How many bytes there are up to the closing quote `q` of a literal, that included. `escaped` says
that the first of them stands behind a backslash. -/
def literalSize? (q : UInt8) : Bool → List UInt8 → Option Nat
  | _, [] => none
  | true, _ :: r => (literalSize? q false r).map (· + 1)
  | false, b :: r =>
    if b = '\\'.toUInt8 then (literalSize? q true r).map (· + 1)
    else if b = q then some 1
    else if b = '\n'.toUInt8 then none
    else (literalSize? q false r).map (· + 1)

/-- How many bytes there are up to the first `*/`, that included. -/
def blockSize? : List UInt8 → Option Nat
  | [] => none
  | b :: r =>
    if b = '*'.toUInt8 ∧ r.head? = some '/'.toUInt8 then some 2 else (blockSize? r).map (· + 1)

/-- What begins with a byte of source text. -/
inductive Opening where
  | code
  /-- A literal or a comment, with the number of its bytes behind the first. -/
  | hidden (size : Nat)
  /-- A literal or a block comment that has no end. -/
  | unclosed

/-- A literal or a comment of that size, if there is an end to it. -/
def Opening.ofSize? : Option Nat → Opening
  | some n => .hidden n
  | none => .unclosed

/-- What begins with `b` where `r` follows. -/
def openingOf (b : UInt8) (r : List UInt8) : Opening :=
  if b = '"'.toUInt8 ∨ b = '\''.toUInt8 then .ofSize? (literalSize? b false r)
  else if b = '/'.toUInt8 ∧ r.head? = some '/'.toUInt8 then
    .hidden (r.takeWhile (· ≠ '\n'.toUInt8)).length
  else if b = '/'.toUInt8 ∧ r.head? = some '*'.toUInt8 then
    .ofSize? ((blockSize? r.tail).map (· + 1))
  else .code

/-- A text with blanks for its literals and comments, and where the first of them begins that has no
end. From there on the text is as it was. -/
structure Masked where
  text : List UInt8
  unclosed : Option Nat

/-- The masked text behind `bs`. -/
def Masked.prepend (bs : List UInt8) (m : Masked) : Masked :=
  ⟨bs ++ m.text, m.unclosed.map (· + bs.length)⟩

/-- Masks a text; the first `n` bytes belong to a literal or a comment that has begun before. -/
def mask : Nat → List UInt8 → Masked
  | _, [] => ⟨[], none⟩
  | n + 1, _ :: r => (mask n r).prepend [' '.toUInt8]
  | 0, b :: r =>
    match openingOf b r with
    | .code => (mask 0 r).prepend [b]
    | .hidden n => (mask n r).prepend [' '.toUInt8]
    | .unclosed => ⟨b :: r, some 0⟩

theorem Masked.prepend_prepend (as bs : List UInt8) (m : Masked) :
    (m.prepend bs).prepend as = m.prepend (as ++ bs) := by
  simp only [Masked.prepend, Option.map_map, Function.comp_def, List.append_assoc,
    List.length_append, Nat.add_assoc, Nat.add_comm as.length]

theorem mask_hidden (bs rest : List UInt8) : mask bs.length (bs ++ rest) =
    (mask 0 rest).prepend (List.replicate bs.length ' '.toUInt8) := by
  induction bs with
  | nil => simp [Masked.prepend]
  | cons b bs ih =>
    rw [List.length_cons, List.cons_append, mask, ih, Masked.prepend_prepend, List.replicate_succ,
      List.singleton_append]

/-! ## Bytes of longer characters -/

/-- The byte is part of a character of more than one byte. -/
def IsHigh (b : UInt8) : Prop := 128 ≤ b.toNat

theorem isHigh_of_mem_encodeChar {c : Char} (h : ¬ IsAscii c) {b : UInt8}
    (hb : b ∈ String.utf8EncodeChar c) : IsHigh b := le_of_mem_encodeChar h hb

theorem IsHigh.ne {b : UInt8} (h : IsHigh b) {x : Char} (hx : IsAscii x) : b ≠ x.toUInt8 := by
  rintro rfl
  have hlt : x.val.toNat < 128 := hx
  have hle : 128 ≤ x.toUInt8.toNat := h
  rw [hx.toNat_toUInt8] at hle
  omega

theorem IsHigh.openingOf {b : UInt8} (h : IsHigh b) (r : List UInt8) :
    Source.openingOf b r = .code := by
  have hne := fun x hx => h.ne (x := x) hx
  simp [Source.openingOf, hne '"' (by decide), hne '\'' (by decide), hne '/' (by decide)]

theorem mask_of_isHigh {bs : List UInt8} (h : ∀ b ∈ bs, IsHigh b) (rest : List UInt8) :
    mask 0 (bs ++ rest) = (mask 0 rest).prepend bs := by
  induction bs with
  | nil => simp [Masked.prepend]
  | cons b bs ih =>
    obtain ⟨hb, hbs⟩ := List.forall_mem_cons.1 h
    rw [List.cons_append, mask, hb.openingOf]
    simp only [ih hbs, Masked.prepend_prepend, List.singleton_append]

theorem literalSize?_of_isHigh {q : Char} (hq : IsAscii q) {bs : List UInt8}
    (h : ∀ b ∈ bs, IsHigh b) (rest : List UInt8) :
    literalSize? q.toUInt8 false (bs ++ rest) =
      (literalSize? q.toUInt8 false rest).map (· + bs.length) := by
  induction bs with
  | nil => simp
  | cons b bs ih =>
    obtain ⟨hb, hbs⟩ := List.forall_mem_cons.1 h
    rw [List.cons_append, literalSize?, if_neg (hb.ne (by decide)), if_neg (hb.ne hq),
      if_neg (hb.ne (by decide)), ih hbs, Option.map_map]
    rfl

theorem blockSize?_of_ne {bs : List UInt8} (h : ∀ b ∈ bs, b ≠ '*'.toUInt8) (rest : List UInt8) :
    blockSize? (bs ++ rest) = (blockSize? rest).map (· + bs.length) := by
  induction bs with
  | nil => simp
  | cons b bs ih =>
    obtain ⟨hb, hbs⟩ := List.forall_mem_cons.1 h
    rw [List.cons_append, blockSize?, if_neg fun hstar => hb hstar.1, ih hbs, Option.map_map]
    rfl

/-! ## Literals and comments, by characters and by bytes -/

theorem IsQuote.isAscii {q : Char} (h : IsQuote q) : IsAscii q := by
  rcases h with rfl | rfl <;> decide

/-- One character further, whichever it is, as long as it means nothing in a literal. -/
theorem literalSize?_encodeChar {q c : Char} (hq : IsAscii q) (hescape : c ≠ '\\') (hquote : c ≠ q)
    (hnewline : c ≠ '\n') (rest : List UInt8) :
    literalSize? q.toUInt8 false (String.utf8EncodeChar c ++ rest) =
      (literalSize? q.toUInt8 false rest).map (· + c.utf8Size) := by
  by_cases hc : IsAscii c
  · have hne : ∀ {x : Char}, IsAscii x → c ≠ x → c.toUInt8 ≠ x.toUInt8 :=
      fun hx h heq => h ((hc.toUInt8_inj hx).1 heq)
    rw [hc.encodeChar, List.singleton_append, literalSize?, if_neg (hne (by decide) hescape),
      if_neg (hne hq hquote), if_neg (hne (by decide) hnewline), hc.utf8Size]
  · rw [literalSize?_of_isHigh hq (fun b hb => isHigh_of_mem_encodeChar hc hb),
      String.length_utf8EncodeChar]

/-- A backslash takes the next byte with it, and so the next character: the other bytes of that mean
nothing in a literal. -/
theorem literalSize?_backslash {q : Char} (hq : IsAscii q) (d : Char) (rest : List UInt8) :
    literalSize? q.toUInt8 false ('\\'.toUInt8 :: (String.utf8EncodeChar d ++ rest)) =
      (literalSize? q.toUInt8 false rest).map (· + (1 + d.utf8Size)) := by
  obtain ⟨b, bs, hd⟩ := List.exists_cons_of_ne_nil (@String.utf8EncodeChar_ne_nil d)
  have hsize : d.utf8Size = bs.length + 1 := by
    rw [← String.length_utf8EncodeChar, hd, List.length_cons]
  have hbs : ∀ x ∈ bs, IsHigh x := by
    by_cases hascii : IsAscii d
    · rw [hascii.encodeChar] at hd
      obtain ⟨-, rfl⟩ := List.cons.inj hd
      simp
    · exact fun x hx => isHigh_of_mem_encodeChar hascii (hd ▸ List.mem_cons_of_mem b hx)
  rw [literalSize?, if_pos rfl, hd, List.cons_append, literalSize?, literalSize?_of_isHigh hq hbs]
  simp only [Option.map_map, Function.comp_def, hsize]
  congr 1
  funext n
  omega

theorem literalSize?_encode {q : Char} (hq : IsQuote q) (cs : List Char) :
    literalSize? q.toUInt8 false (encode cs) =
      (literalBody? q cs).map fun p => size p.1 + 1 := by
  have hascii := hq.isAscii
  have hclosing : ∀ r, literalSize? q.toUInt8 false (String.utf8EncodeChar q ++ r) = some 1 := by
    intro r
    have hne : q.toUInt8 ≠ '\\'.toUInt8 := fun heq =>
      hq.ne_backslash ((hascii.toUInt8_inj (by decide)).1 heq)
    rw [hascii.encodeChar, List.singleton_append, literalSize?, if_neg hne, if_pos rfl]
  have hnewline : ∀ r, '\n' ≠ q →
      literalSize? q.toUInt8 false (String.utf8EncodeChar '\n' ++ r) = none := by
    intro r hquote
    have hne : '\n'.toUInt8 ≠ q.toUInt8 := fun heq =>
      hquote ((IsAscii.toUInt8_inj (by decide) hascii).1 heq)
    rw [IsAscii.encodeChar (by decide), List.singleton_append, literalSize?, if_neg (by decide),
      if_neg hne, if_pos rfl]
  fun_induction literalBody? q cs with
  | case1 => rfl
  | case2 => rw [encode_cons, hclosing, Option.map_some, size_nil]
  | case3 c hquote =>
    rw [encode_cons, Option.map_none]
    by_cases hescape : c = '\\'
    · subst hescape
      rfl
    · by_cases hc : c = '\n'
      · subst hc
        exact hnewline _ hquote
      · rw [literalSize?_encodeChar hascii hescape hquote hc]
        rfl
  | case4 d r ih =>
    have hstep := literalSize?_backslash hascii d (encode r)
    have hone : '\\'.utf8Size = 1 := by decide
    rw [encode_cons, encode_cons, IsAscii.encodeChar (by decide), List.singleton_append, hstep, ih]
    simp only [Option.map_map, Function.comp_def, size_cons]
    congr 1
    funext p
    omega
  | case5 d r _ => rw [encode_cons, hclosing, Option.map_some, size_nil]
  | case6 d r _ hquote => rw [encode_cons, hnewline _ hquote, Option.map_none]
  | case7 c d r hescape hquote hc ih =>
    rw [encode_cons, literalSize?_encodeChar hascii hescape hquote hc, ih]
    simp only [Option.map_map, Function.comp_def, size_cons]
    congr 1
    funext p
    omega

theorem blockSize?_encode (cs : List Char) :
    blockSize? (encode cs) = (closeComment? cs).map fun p => size p.1 + 2 := by
  have hstar : IsAscii '*' := by decide
  have hslash : IsAscii '/' := by decide
  fun_induction closeComment? cs with
  | case1 r =>
    rw [encode_cons, encode_cons, hstar.encodeChar, hslash.encodeChar, List.singleton_append,
      List.singleton_append, blockSize?, if_pos ⟨rfl, rfl⟩]
    rfl
  | case2 => rfl
  | case3 c r hopen ih =>
    rw [encode_cons]
    have hstep : blockSize? (String.utf8EncodeChar c ++ encode r) =
        (blockSize? (encode r)).map (· + c.utf8Size) := by
      by_cases hc : c = '*'
      · subst hc
        have hnot : ¬ ('*'.toUInt8 = '*'.toUInt8 ∧ (encode r).head? = some '/'.toUInt8) := by
          rintro ⟨-, hhead⟩
          obtain ⟨r', rfl⟩ := List.head?_eq_some_iff.1 ((head?_encode_eq_iff hslash).1 hhead)
          exact hopen r' rfl rfl
        have hone : '*'.utf8Size = 1 := by decide
        rw [hstar.encodeChar, List.singleton_append, blockSize?, if_neg hnot, hone]
      · have hne : ∀ b ∈ String.utf8EncodeChar c, b ≠ '*'.toUInt8 := by
          rintro b hb rfl
          exact hc ((mem_encodeChar_iff hstar).1 hb)
        rw [blockSize?_of_ne hne, String.length_utf8EncodeChar]
    rw [hstep, ih]
    simp only [Option.map_map, Function.comp_def, size_cons]
    congr 1
    funext p
    omega

theorem takeWhile_encode (cs : List Char) :
    (encode cs).takeWhile (· ≠ '\n'.toUInt8) = encode (cs.takeWhile (· ≠ '\n')) := by
  have hnewline : IsAscii '\n' := by decide
  induction cs with
  | nil => rfl
  | cons c r ih =>
    by_cases hc : c = '\n'
    · subst hc
      simp [hnewline.encodeChar]
    · have hall : ∀ b ∈ String.utf8EncodeChar c, decide (b ≠ '\n'.toUInt8) = true := by
        intro b hb
        rw [decide_eq_true_iff]
        rintro rfl
        exact hc ((mem_encodeChar_iff hnewline).1 hb)
      rw [encode_cons, List.takeWhile_append_of_pos hall, ih,
        List.takeWhile_cons_of_pos (by simpa using hc), encode_cons]

/-! ## Tokens -/

theorem openingOf_quote {q : Char} (hq : IsQuote q) (r : List UInt8) :
    openingOf q.toUInt8 r = .ofSize? (literalSize? q.toUInt8 false r) := by
  have hbyte : q.toUInt8 = '"'.toUInt8 ∨ q.toUInt8 = '\''.toUInt8 :=
    hq.imp (congrArg Char.toUInt8) (congrArg Char.toUInt8)
  rw [openingOf, if_pos hbyte]

theorem openingOf_lineComment (r : List UInt8) :
    openingOf '/'.toUInt8 ('/'.toUInt8 :: r) =
      .hidden (('/'.toUInt8 :: r).takeWhile (· ≠ '\n'.toUInt8)).length := by
  rw [openingOf, if_neg (by decide), if_pos ⟨rfl, rfl⟩]

theorem openingOf_blockComment (r : List UInt8) :
    openingOf '/'.toUInt8 ('*'.toUInt8 :: r) = .ofSize? ((blockSize? r).map (· + 1)) := by
  have hne : ¬ ('/'.toUInt8 = '/'.toUInt8 ∧
      ('*'.toUInt8 :: r).head? = some '/'.toUInt8) := fun h => absurd h.2 (by simp; decide)
  rw [openingOf, if_neg (by decide), if_neg hne, if_pos ⟨rfl, rfl⟩, List.tail_cons]

theorem openingOf_plain {c : Char} (hc : IsAscii c) (hq : ¬ IsQuote c) {r : List Char}
    (hcomment : ¬ OpensComment c r) : openingOf c.toUInt8 (encode r) = .code := by
  have hbyte : ¬ (c.toUInt8 = '"'.toUInt8 ∨ c.toUInt8 = '\''.toUInt8) := by
    rwa [hc.toUInt8_inj (by decide), hc.toUInt8_inj (by decide)]
  have hline : ¬ (c.toUInt8 = '/'.toUInt8 ∧ (encode r).head? = some '/'.toUInt8) := by
    rw [hc.toUInt8_inj (by decide), head?_encode_eq_iff (by decide)]
    exact fun h => hcomment ⟨h.1, .inl h.2⟩
  have hblock : ¬ (c.toUInt8 = '/'.toUInt8 ∧ (encode r).head? = some '*'.toUInt8) := by
    rw [hc.toUInt8_inj (by decide), head?_encode_eq_iff (by decide)]
    exact fun h => hcomment ⟨h.1, .inr h.2⟩
  rw [openingOf, if_neg hbyte, if_neg hline, if_neg hblock]

/-- What is put for a token; nothing if masking stops at it. -/
def Token.masked? : Token → Option (List UInt8)
  | .stray _ | .openComment _ => none
  | .plain c => some (String.utf8EncodeChar c)
  | t => some (List.replicate (size t.text) ' '.toUInt8)

/-- A literal or comment is masked as a whole. -/
theorem mask_of_hidden {c : Char} (hc : IsAscii c) {t : Token} {behind rest : List Char}
    (htext : t.text = c :: behind)
    (h : openingOf c.toUInt8 (encode (behind ++ rest)) = .hidden (size behind)) :
    mask 0 (encode (c :: (behind ++ rest))) =
      (mask 0 (encode rest)).prepend (List.replicate (size t.text) ' '.toUInt8) := by
  have hsize : size t.text = (encode behind).length + 1 := by
    rw [htext, size_cons, hc.utf8Size, length_encode, Nat.add_comm]
  rw [hc.encode_cons, mask, h, ← length_encode]
  simp only [encode_append, mask_hidden, Masked.prepend_prepend, hsize, List.replicate_succ,
    List.singleton_append]

theorem mask_of_unclosed {c : Char} (hc : IsAscii c) {r : List Char}
    (h : openingOf c.toUInt8 (encode r) = .unclosed) :
    mask 0 (encode (c :: r)) = ⟨encode (c :: r), some 0⟩ := by
  rw [hc.encode_cons, mask, h]

/-- A character that is not hidden stays, with all its bytes. -/
theorem mask_of_plain {c : Char} (hq : ¬ IsQuote c) {r : List Char}
    (hcomment : ¬ OpensComment c r) :
    mask 0 (encode (c :: r)) = (mask 0 (encode r)).prepend (String.utf8EncodeChar c) := by
  by_cases hc : IsAscii c
  · rw [hc.encode_cons, mask, openingOf_plain hc hq hcomment, hc.encodeChar]
  · rw [encode_cons, mask_of_isHigh fun b hb => isHigh_of_mem_encodeChar hc hb]

/-- **Masking goes over a text by its tokens**, up to the first that has no end. -/
theorem mask_encode_cons (c : Char) (r : List Char) : mask 0 (encode (c :: r)) =
    match (next c r).1.masked? with
    | some bs => (mask 0 (encode (next c r).2)).prepend bs
    | none => ⟨encode (c :: r), some 0⟩ := by
  have hslash : IsAscii '/' := by decide
  have hstar : IsAscii '*' := by decide
  have hfront := front_next c r
  generalize next c r = front at hfront
  cases hfront with
  | @literal _ _ body rest hq h =>
    have hr : r = body ++ [c] ++ rest := by rw [eq_of_literalBody? h, List.append_cons]
    have hopening : openingOf c.toUInt8 (encode (body ++ [c] ++ rest)) =
        .hidden (size (body ++ [c])) := by
      rw [← hr, openingOf_quote hq, literalSize?_encode hq, h, size_append, size_cons, size_nil,
        hq.isAscii.utf8Size]
      rfl
    rw [hr]
    exact mask_of_hidden hq.isAscii rfl hopening
  | stray hq h =>
    have hopening : openingOf c.toUInt8 (encode r) = .unclosed := by
      rw [openingOf_quote hq, literalSize?_encode hq, h]
      rfl
    exact mask_of_unclosed hq.isAscii hopening
  | lineComment r =>
    have hr : '/' :: r = '/' :: r.takeWhile (· ≠ '\n') ++ r.dropWhile (· ≠ '\n') := by
      rw [List.cons_append, List.takeWhile_append_dropWhile]
    have hopening : openingOf '/'.toUInt8
        (encode ('/' :: r.takeWhile (· ≠ '\n') ++ r.dropWhile (· ≠ '\n'))) =
          .hidden (size ('/' :: r.takeWhile (· ≠ '\n'))) := by
      have hline := takeWhile_encode ('/' :: r)
      rw [List.takeWhile_cons_of_pos (by decide)] at hline
      rw [← hr, ← length_encode, ← hline, hslash.encode_cons, openingOf_lineComment]
    rw [hr]
    exact mask_of_hidden hslash rfl hopening
  | @blockComment r body rest h =>
    have hr : '*' :: r = '*' :: body ++ ['*', '/'] ++ rest := by
      rw [eq_of_closeComment? h]
      simp
    have hopening : openingOf '/'.toUInt8 (encode ('*' :: body ++ ['*', '/'] ++ rest)) =
        .hidden (size ('*' :: body ++ ['*', '/'])) := by
      have hsize : size ('*' :: body ++ ['*', '/']) = size body + 2 + 1 := by
        simp only [List.cons_append, size_cons, size_append, size_nil, hslash.utf8Size,
          hstar.utf8Size]
        omega
      rw [← hr, hstar.encode_cons, openingOf_blockComment, blockSize?_encode, h, hsize]
      rfl
    rw [hr]
    exact mask_of_hidden hslash rfl hopening
  | @openComment r h =>
    have hopening : openingOf '/'.toUInt8 (encode ('*' :: r)) = .unclosed := by
      rw [hstar.encode_cons, openingOf_blockComment, blockSize?_encode, h]
      rfl
    exact mask_of_unclosed hslash hopening
  | plain hq hcomment => exact mask_of_plain hq hcomment

end Source
end DexQuery
