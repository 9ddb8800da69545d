import DexQuery.Proofs.Source.Masking
import DexQuery.Proofs.Text.Index
import DexQuery.Source.Literal
import DexQuery.Source.Member

/-!
# Source text by byte indices

Literals and members can also be found by an index that goes over the bytes of a text. One turn of
each search looks at the byte at the index and moves the index on: behind a literal or a comment if
one begins there, else by one byte (`Source.literalTurn`, `Source.memberTurn`). Every turn moves it
on (`Source.lt_of_literalTurn`, `Source.lt_of_memberTurn`).

Where a character below 128 stands at the index, a turn goes over the token that begins with it
(`Source.literalTurn_append`, `Source.memberTurn_append`). The bytes of the other characters are
gone over one by one, so an index may well stand within a character; but nothing is cut there.
-/

namespace DexQuery
namespace Source

open Text

/-! ## Where literals and comments end -/

/-- The index behind the literal that `quote` has opened, from byte `i` of it on. A backslash takes
one byte with it, whichever that is. -/
def literalStop? (bs : List UInt8) (quote : UInt8) (i : Nat) : Option Nat :=
  if _inside : i < bs.length then
    if bs[i] = '\\'.toUInt8 then literalStop? bs quote (i + 2)
    else if bs[i] = quote then some (i + 1)
    else if bs[i] = '\n'.toUInt8 then none
    else literalStop? bs quote (i + 1)
  else none
termination_by bs.length - i

/-- The index of the first newline from byte `i` on, or of the end. -/
def lineStop (bs : List UInt8) (i : Nat) : Nat :=
  i + ((bs.drop i).takeWhile (· ≠ '\n'.toUInt8)).length

/-- The index behind the block comment that begins at byte `i`, none if it has no end. The end is
searched in what is cut off behind the opening, which fails within a character. -/
def blockStop? (cs : List Char) (i : Nat) : Option (Option Nat) :=
  (tail? cs (i + 2)).map fun rest =>
    (splitOccurrence? ['*', '/'] rest).map fun p => i + 2 + size p.1 + 2

/-! ## Turns -/

/-- One turn of the search for literals at byte `i`, which is `b`: the next index, with the literal
that was found. None if a text was to be cut within a character. -/
def literalTurn (cs : List Char) (i : Nat) (b : UInt8) : Option (Nat × Option Literal) :=
  if b = '"'.toUInt8 then
    match literalStop? (encode cs) b (i + 1) with
    | none => some (i + 1, none)
    | some j => (slice? cs (i + 1) (j - 1)).map fun body =>
      (j, some ⟨i, String.ofList (unescape body)⟩)
  else if b = '\''.toUInt8 then some ((literalStop? (encode cs) b (i + 1)).getD (i + 1), none)
  else if b = '/'.toUInt8 ∧ (encode cs)[i + 1]? = some '/'.toUInt8 then
    some (lineStop (encode cs) i, none)
  else if b = '/'.toUInt8 ∧ (encode cs)[i + 1]? = some '*'.toUInt8 then
    (blockStop? cs i).map fun stop => (stop.getD (encode cs).length, none)
  else some (i + 1, none)

/-- What one turn of the search for the end of a member comes to. -/
inductive Turn where
  /-- The next index, and how many braces are open there. -/
  | goesOn (i depth : Nat)
  /-- The index behind the member. -/
  | ends (i : Nat)
  | givesUp
  /-- A text was to be cut within a character. -/
  | badCut

/-- One turn of the search for the end of a member at byte `i`, which is `b`. -/
def memberTurn (cs : List Char) (i depth : Nat) (b : UInt8) : Turn :=
  if b = '"'.toUInt8 ∨ b = '\''.toUInt8 then
    match literalStop? (encode cs) b (i + 1) with
    | none => .givesUp
    | some j => .goesOn j depth
  else if b = '/'.toUInt8 ∧ (encode cs)[i + 1]? = some '/'.toUInt8 then
    .goesOn (lineStop (encode cs) i) depth
  else if b = '/'.toUInt8 ∧ (encode cs)[i + 1]? = some '*'.toUInt8 then
    match blockStop? cs i with
    | none => .badCut
    | some none => .givesUp
    | some (some j) => .goesOn j depth
  else if b = ';'.toUInt8 ∧ depth = 0 then .ends (i + 1)
  else if b = '{'.toUInt8 then .goesOn (i + 1) (depth + 1)
  else if b = '}'.toUInt8 then
    if depth = 0 then .givesUp
    else if depth - 1 = 0 then .ends (i + 1)
    else .goesOn (i + 1) (depth - 1)
  else .goesOn (i + 1) depth

/-! ### Every turn moves on -/

theorem lt_of_literalStop? {bs : List UInt8} {quote : UInt8} {i j : Nat}
    (h : literalStop? bs quote i = some j) : i < j := by
  fun_induction literalStop? bs quote i with
  | case1 i _ _ ih =>
    have := ih h
    omega
  | case2 i _ _ _ =>
    obtain rfl := Option.some.inj h
    exact Nat.lt_succ_self i
  | case3 => cases h
  | case4 i _ _ _ _ ih =>
    have := ih h
    omega
  | case5 => cases h

theorem lt_lineStop {bs : List UInt8} {i : Nat} (h : bs[i]? = some '/'.toUInt8) :
    i < lineStop bs i := by
  obtain ⟨hi, hb⟩ := List.getElem?_eq_some_iff.1 h
  rw [lineStop, List.drop_eq_getElem_cons hi, hb, List.takeWhile_cons_of_pos (by decide),
    List.length_cons]
  omega

theorem lt_of_blockStop? {cs : List Char} {i j : Nat} (h : blockStop? cs i = some (some j)) :
    i < j := by
  obtain ⟨rest, -, hstop⟩ := Option.map_eq_some_iff.1 h
  obtain ⟨p, -, rfl⟩ := Option.map_eq_some_iff.1 hstop
  omega

/-- **Every turn moves the index on**, in the search for literals. -/
theorem lt_of_literalTurn {cs : List Char} {i j : Nat} {b : UInt8} {l : Option Literal}
    (hb : (encode cs)[i]? = some b) (h : literalTurn cs i b = some (j, l)) : i < j := by
  unfold literalTurn at h
  split_ifs at h with hstring hcharacter hline hblock
  · split at h
    · cases h
      omega
    · rename_i stop hstop
      obtain ⟨body, -, heq⟩ := Option.map_eq_some_iff.1 h
      cases heq
      have := lt_of_literalStop? hstop
      omega
  · cases h
    cases hstop : literalStop? (encode cs) b (i + 1) with
    | none => exact Nat.lt_succ_self i
    | some stop =>
      have := lt_of_literalStop? hstop
      rw [Option.getD_some]
      omega
  · cases h
    exact lt_lineStop (hline.1 ▸ hb)
  · obtain ⟨stop, hstop, heq⟩ := Option.map_eq_some_iff.1 h
    cases heq
    cases stop with
    | none => exact (List.getElem?_eq_some_iff.1 hb).1
    | some stop => exact lt_of_blockStop? hstop
  · cases h
    omega

/-- **Every turn moves the index on**, in the search for the end of a member. -/
theorem lt_of_memberTurn {cs : List Char} {i j depth depth' : Nat} {b : UInt8}
    (hb : (encode cs)[i]? = some b) (h : memberTurn cs i depth b = .goesOn j depth') : i < j := by
  unfold memberTurn at h
  split_ifs at h with hquote hline hblock
  · split at h
    · cases h
    · rename_i stop hstop
      cases h
      have := lt_of_literalStop? hstop
      omega
  · cases h
    exact lt_lineStop (hline.1 ▸ hb)
  · split at h
    · cases h
    · cases h
    · rename_i stop hstop
      cases h
      exact lt_of_blockStop? hstop
  all_goals
    cases h
    omega

/-! ## Literals and comments, by indices and by characters -/

/-- Counting on in a literal comes to where the index does. -/
theorem literalStop?_eq (bs : List UInt8) (quote : UInt8) (i : Nat) :
    literalStop? bs quote i = (literalSize? quote false (bs.drop i)).map (i + ·) := by
  fun_induction literalStop? bs quote i with
  | case1 i hi hescape ih =>
    rw [ih, List.drop_eq_getElem_cons hi, literalSize?, if_pos hescape]
    cases hrest : bs.drop (i + 1) with
    | nil =>
      have hnil : bs.drop (i + 2) = [] := by
        rw [← List.tail_drop, hrest, List.tail_nil]
      rw [hnil]
      rfl
    | cons x r =>
      have hr : bs.drop (i + 2) = r := by
        rw [← List.tail_drop, hrest, List.tail_cons]
      rw [hr, literalSize?]
      simp only [Option.map_map, Function.comp_def]
      congr 1
      funext n
      omega
  | case2 i hi hescape hquote =>
    rw [List.drop_eq_getElem_cons hi, literalSize?, if_neg hescape, if_pos hquote, Option.map_some]
  | case3 i hi hescape hquote hnewline =>
    rw [List.drop_eq_getElem_cons hi, literalSize?, if_neg hescape, if_neg hquote, if_pos hnewline,
      Option.map_none]
  | case4 i hi hescape hquote hnewline ih =>
    rw [ih, List.drop_eq_getElem_cons hi, literalSize?, if_neg hescape, if_neg hquote,
      if_neg hnewline, Option.map_map]
    congr 1
    funext n
    simp only [Function.comp_def]
    omega
  | case5 i hi =>
    rw [List.drop_of_length_le (Nat.le_of_not_lt hi)]
    rfl

theorem drop_encode_append (before after : List Char) :
    (encode (before ++ after)).drop (size before) = encode after := by
  rw [encode_append, List.drop_left' (length_encode before)]

variable {before r : List Char} {c q : Char}

/-- The byte of a character below 128 stands at its index, and the next one behind it. -/
theorem getElem?_of_isAscii (hc : IsAscii c) :
    (encode (before ++ c :: r))[size before]? = some c.toUInt8 :=
  (getElem?_encode_append_eq_iff hc).2 rfl

theorem getElem?_succ_of_isAscii (hc : IsAscii c) :
    (encode (before ++ c :: r))[size before + 1]? = (encode r).head? := by
  rw [getElem?_encode_append, hc.encode_cons, List.getElem?_cons_succ, List.head?_eq_getElem?]

/-- A literal ends for the index where it does for the characters. -/
theorem literalStop?_append (hq : IsQuote q) (before r : List Char) :
    literalStop? (encode (before ++ q :: r)) q.toUInt8 (size before + 1) =
      (literalBody? q r).map fun p => size before + 1 + (size p.1 + 1) := by
  have hdrop : (encode (before ++ q :: r)).drop (size before + 1) = encode r := by
    rw [← List.drop_drop, drop_encode_append, hq.isAscii.encode_cons]
    rfl
  rw [literalStop?_eq, hdrop, literalSize?_encode hq, Option.map_map]
  rfl

theorem lineStop_append (before r : List Char) :
    lineStop (encode (before ++ '/' :: '/' :: r)) (size before) =
      size before + size (Token.lineComment (r.takeWhile (· ≠ '\n'))).text := by
  rw [lineStop, drop_encode_append, takeWhile_encode, length_encode,
    List.takeWhile_cons_of_pos (by decide), List.takeWhile_cons_of_pos (by decide)]
  rfl

/-- A block comment ends at the first `*/`, however that is searched for. -/
theorem splitOccurrence?_eq (cs : List Char) :
    splitOccurrence? ['*', '/'] cs = closeComment? cs := by
  fun_induction closeComment? cs with
  | case1 r => rfl
  | case2 => rfl
  | case3 c r hopen ih =>
    have hprefix : ¬ ['*', '/'].isPrefixOf (c :: r) = true := by
      rw [List.isPrefixOf_iff_prefix]
      rintro ⟨t, ht⟩
      obtain ⟨rfl, hr⟩ := List.cons.inj ht
      exact hopen t rfl hr.symm
    rw [splitOccurrence?, if_neg hprefix, ih]

/-- No text is cut within a character: what opens a comment is below 128. -/
theorem blockStop?_append (before r : List Char) :
    blockStop? (before ++ '/' :: '*' :: r) (size before) =
      some ((closeComment? r).map fun p => size before + size (Token.blockComment p.1).text) := by
  have htail : tail? (before ++ '/' :: '*' :: r) (size before + 2) = some r := by
    have hsize : size before + 2 = size (before ++ ['/', '*']) := by rw [size_append]; rfl
    rw [hsize, List.append_cons, List.append_cons, List.append_assoc before]
    exact tail?_append ..
  rw [blockStop?, htail, Option.map_some, splitOccurrence?_eq]
  congr 2
  funext p
  simp only [Token.text, List.cons_append, size_cons, size_append, size_nil]
  have hone : '/'.utf8Size = 1 ∧ '*'.utf8Size = 1 := by decide
  omega

/-! ## Turns over tokens -/

/-- A comment opens with its first two bytes. -/
theorem opens_iff {x : Char} (hx : IsAscii x) (hc : IsAscii c) :
    (c.toUInt8 = '/'.toUInt8 ∧ (encode (before ++ c :: r))[size before + 1]? = some x.toUInt8) ↔
      c = '/' ∧ r.head? = some x := by
  rw [hc.toUInt8_inj (by decide), getElem?_succ_of_isAscii hc, head?_encode_eq_iff hx]

theorem size_literal (hq : IsQuote q) (body : List Char) :
    size (Token.literal q body).text = 1 + (size body + 1) := by
  simp only [Token.text, List.cons_append, size_cons, size_append, size_nil, hq.isAscii.utf8Size]

/-- The body of a literal is cut out between its quotes. -/
theorem slice?_literal (hq : IsQuote q) (before body rest : List Char) :
    slice? (before ++ q :: (body ++ q :: rest)) (size before + 1) (size before + 1 + size body) =
      some body := by
  have hsize : size before + 1 = size (before ++ [q]) := by
    rw [size_append, size_cons, size_nil, hq.isAscii.utf8Size]
  rw [hsize, List.append_cons]
  exact slice?_append ..

/-- **A turn of the search for literals goes over a token**, and takes it if it is a literal. -/
theorem literalTurn_append (hc : IsAscii c) (before r : List Char) :
    literalTurn (before ++ c :: r) (size before) c.toUInt8 =
      some (size before + size (next c r).1.text,
        Literal.ofToken? (size before, (next c r).1)) := by
  have hone : ∀ x, IsAscii x → size [x] = 1 := by
    intro x hx
    rw [size_cons, size_nil, hx.utf8Size]
  have hfront := front_next c r
  generalize next c r = front at hfront
  cases hfront with
  | @literal _ _ body rest hq h =>
    have hcut := slice?_literal hq before body rest
    rw [← eq_of_literalBody? h] at hcut
    rw [size_literal hq]
    rcases hq with rfl | rfl
    · have hend : size before + 1 + (size body + 1) - 1 = size before + 1 + size body := by omega
      rw [literalTurn, if_pos rfl, literalStop?_append (.inl rfl), h]
      simp only [Option.map_some, hend, hcut]
      rw [Nat.add_assoc]
      rfl
    · rw [literalTurn, if_neg (by decide), if_pos rfl, literalStop?_append (.inr rfl), h]
      simp only [Option.map_some, Option.getD_some, Nat.add_assoc]
      rfl
  | stray hq h =>
    rw [Token.text, hone _ hc]
    rcases hq with rfl | rfl
    · rw [literalTurn, if_pos rfl, literalStop?_append (.inl rfl), h]
      rfl
    · rw [literalTurn, if_neg (by decide), if_pos rfl, literalStop?_append (.inr rfl), h]
      rfl
  | lineComment r =>
    rw [literalTurn, if_neg (by decide), if_neg (by decide),
      if_pos ((opens_iff (by decide) hc).2 ⟨rfl, rfl⟩), lineStop_append]
    rfl
  | blockComment h =>
    rw [literalTurn, if_neg (by decide), if_neg (by decide),
      if_neg ((opens_iff (by decide) hc).not.2 (by simp)),
      if_pos ((opens_iff (by decide) hc).2 ⟨rfl, rfl⟩), blockStop?_append, h]
    rfl
  | @openComment r h =>
    have hlength : (encode (before ++ '/' :: '*' :: r)).length =
        size before + size (Token.openComment r).text := by
      rw [length_encode, size_append]
      rfl
    rw [literalTurn, if_neg (by decide), if_neg (by decide),
      if_neg ((opens_iff (by decide) hc).not.2 (by simp)),
      if_pos ((opens_iff (by decide) hc).2 ⟨rfl, rfl⟩), blockStop?_append, h, Option.map_none,
      Option.map_some, Option.getD_none, hlength]
    rfl
  | plain hq hcomment =>
    have hstring : ¬ c.toUInt8 = '"'.toUInt8 := by
      rw [hc.toUInt8_inj (by decide)]
      exact fun h => hq (.inl h)
    have hcharacter : ¬ c.toUInt8 = '\''.toUInt8 := by
      rw [hc.toUInt8_inj (by decide)]
      exact fun h => hq (.inr h)
    rw [literalTurn, if_neg hstring, if_neg hcharacter,
      if_neg ((opens_iff (by decide) hc).not.2 fun h => hcomment ⟨h.1, .inl h.2⟩),
      if_neg ((opens_iff (by decide) hc).not.2 fun h => hcomment ⟨h.1, .inr h.2⟩),
      Token.text, hone c hc]
    rfl

/-- What a turn of the search for the end of a member comes to at a token. -/
def Token.turn (i depth : Nat) : Token → Turn
  | .stray _ | .openComment _ => .givesUp
  | .plain c =>
    if c = ';' ∧ depth = 0 then .ends (i + 1)
    else if c = '{' then .goesOn (i + 1) (depth + 1)
    else if c = '}' then
      if depth = 0 then .givesUp
      else if depth - 1 = 0 then .ends (i + 1)
      else .goesOn (i + 1) (depth - 1)
    else .goesOn (i + 1) depth
  | t => .goesOn (i + size t.text) depth

/-- **A turn of the search for the end of a member goes over a token.** -/
theorem memberTurn_append (hc : IsAscii c) (before r : List Char) (depth : Nat) :
    memberTurn (before ++ c :: r) (size before) depth c.toUInt8 =
      (next c r).1.turn (size before) depth := by
  have hfront := front_next c r
  generalize next c r = front at hfront
  cases hfront with
  | literal hq h =>
    have hbyte := hq.imp (congrArg Char.toUInt8) (congrArg Char.toUInt8)
    rw [memberTurn, if_pos hbyte, literalStop?_append hq, h]
    simp only [Option.map_some, Token.turn, size_literal hq, Nat.add_assoc]
  | stray hq h =>
    have hbyte := hq.imp (congrArg Char.toUInt8) (congrArg Char.toUInt8)
    rw [memberTurn, if_pos hbyte, literalStop?_append hq, h]
    rfl
  | lineComment r =>
    rw [memberTurn, if_neg (by decide), if_pos ((opens_iff (by decide) hc).2 ⟨rfl, rfl⟩),
      lineStop_append]
    rfl
  | blockComment h =>
    rw [memberTurn, if_neg (by decide), if_neg ((opens_iff (by decide) hc).not.2 (by simp)),
      if_pos ((opens_iff (by decide) hc).2 ⟨rfl, rfl⟩), blockStop?_append, h]
    rfl
  | openComment h =>
    rw [memberTurn, if_neg (by decide), if_neg ((opens_iff (by decide) hc).not.2 (by simp)),
      if_pos ((opens_iff (by decide) hc).2 ⟨rfl, rfl⟩), blockStop?_append, h]
    rfl
  | plain hq hcomment =>
    have hquote : ¬ (c.toUInt8 = '"'.toUInt8 ∨ c.toUInt8 = '\''.toUInt8) := by
      rwa [hc.toUInt8_inj (by decide), hc.toUInt8_inj (by decide)]
    rw [memberTurn, if_neg hquote,
      if_neg ((opens_iff (by decide) hc).not.2 fun h => hcomment ⟨h.1, .inl h.2⟩),
      if_neg ((opens_iff (by decide) hc).not.2 fun h => hcomment ⟨h.1, .inr h.2⟩)]
    simp only [Token.turn, hc.toUInt8_inj (d := ';') (by decide),
      hc.toUInt8_inj (d := '{') (by decide), hc.toUInt8_inj (d := '}') (by decide)]

/-- The bytes of longer characters are gone over one by one. -/
theorem literalTurn_of_isHigh {b : UInt8} (hb : IsHigh b) (cs : List Char) (i : Nat) :
    literalTurn cs i b = some (i + 1, none) := by
  have hne := fun x hx => hb.ne (x := x) hx
  rw [literalTurn, if_neg (hne '"' (by decide)), if_neg (hne '\'' (by decide)),
    if_neg fun h => hne '/' (by decide) h.1, if_neg fun h => hne '/' (by decide) h.1]

theorem memberTurn_of_isHigh {b : UInt8} (hb : IsHigh b) (cs : List Char) (i depth : Nat) :
    memberTurn cs i depth b = .goesOn (i + 1) depth := by
  have hne := fun x hx => hb.ne (x := x) hx
  rw [memberTurn, if_neg fun h => h.elim (hne '"' (by decide)) (hne '\'' (by decide)),
    if_neg fun h => hne '/' (by decide) h.1, if_neg fun h => hne '/' (by decide) h.1,
    if_neg fun h => hne ';' (by decide) h.1, if_neg (hne '{' (by decide)),
    if_neg (hne '}' (by decide))]

/-- What every turn over such a byte keeps, is so behind a longer character if it is before. -/
theorem pass_char {P : Nat → Prop} (hc : ¬ IsAscii c) (before r : List Char)
    (hpass : ∀ i b, (encode (before ++ c :: r))[i]? = some b → IsHigh b → P i → P (i + 1))
    (h : P (size before)) : P (size before + c.utf8Size) := by
  have hpart : ∀ k ≤ c.utf8Size, P (size before + k) := by
    intro k
    induction k with
    | zero => exact fun _ => h
    | succ k ih =>
      intro hk
      obtain ⟨b, hb, hbyte⟩ := getElem?_encode_char before r (Nat.lt_of_succ_le hk)
      exact hpass _ _ hbyte (isHigh_of_mem_encodeChar hc hb) (ih (by omega))
  exact hpart _ (Nat.le_refl _)

end Source
end DexQuery
