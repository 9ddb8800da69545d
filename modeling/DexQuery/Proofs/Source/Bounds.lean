import DexQuery.Proofs.Source.Visited

/-!
# Indices into source text are safe

Nothing that is cut out of a text on the search for its literals or for a member is cut within a
character or behind the end, and what the searches give are bounds of whole parts of the text
(`Source.indices_safe`). The literals stand apart from one another, in ascending order, because the
tokens do (`Source.pairwise_placed`); a member ends with a semicolon or a brace because its tokens
do (`Source.exists_last_of_body?`).
-/

namespace DexQuery
namespace Source

open Text

/-! ## String literals -/

/-- A string literal reaches from its opening quote up to byte `stop`, and its value is cut out
between its quotes. -/
structure Literal.Spans (text : String) (l : Literal) (stop : Nat) : Prop where
  quote : (bytes text)[l.offset]? = some '"'.toUInt8
  stop_eq : literalStop? (bytes text) '"'.toUInt8 (l.offset + 1) = some stop
  stop_le : stop ≤ text.utf8ByteSize
  body : ∃ body, slice? text.toList (l.offset + 1) (stop - 1) = some body ∧
    l.value = String.ofList (unescape body)

/-- The search for the literals of a text cuts between characters only, goes on in every turn, and
finds whole literals, one behind the other. -/
structure LiteralsSafe (text : String) : Prop where
  found : literalsFrom text.toList 0 = some (literals text)
  moves_on {i j : Nat} {b : UInt8} {l : Option Literal} (hb : (bytes text)[i]? = some b)
    (hturn : literalTurn text.toList i b = some (j, l)) : i < j
  ascending : (literals text).Pairwise fun l l' => l.offset < l'.offset
  spans : ∀ l ∈ literals text, ∃ stop, l.Spans text stop
  apart : (literals text).Pairwise fun l l' => ∀ stop, l.Spans text stop → stop ≤ l'.offset

/-- Tokens begin behind the end of those before them. -/
theorem pairwise_placed (n : Nat) (ts : List Token) :
    (placed n ts).Pairwise fun p p' => p.1 + size p.2.text ≤ p'.1 := by
  induction ts generalizing n with
  | nil => exact .nil
  | cons t ts ih => exact .cons (fun _ hp => (bounds_of_mem_placed hp).1) (ih _)

theorem spans_of_mem_placed {text : String} {n : Nat} {body : List Char}
    (h : (n, Token.literal '"' body) ∈ placed 0 (scan text.toList)) :
    Literal.Spans text ⟨n, String.ofList (unescape body)⟩
      (n + size (Token.literal '"' body).text) := by
  have hq : IsQuote '"' := .inl rfl
  obtain ⟨front, rest, hscan, rfl⟩ := mem_placed_iff.1 h
  obtain ⟨c, r, htext, hnext, -⟩ := exists_cons_of_scan hscan
  rw [Nat.zero_add] at h ⊢
  generalize front.flatMap Token.text = before at h htext ⊢
  have hfront := front_next c r
  rw [← Prod.eta (next c r), hnext] at hfront
  generalize (next c r).2 = after at hfront
  cases hfront with
  | literal hq' hbody =>
    have hstop : size before + size (Token.literal '"' body).text - 1 =
        size before + 1 + size body := by
      rw [size_literal hq]
      omega
    refine ⟨?_, ?_, ?_, body, ?_, rfl⟩
    · rw [bytes_eq_encode, htext]
      exact getElem?_of_isAscii hq.isAscii
    · rw [bytes_eq_encode, htext, literalStop?_append hq, hbody, Option.map_some, size_literal hq,
        Nat.add_assoc]
    · have := (bounds_of_mem_placed h).2
      rw [text_scan, size_eq_utf8ByteSize text.toList, String.ofList_toList] at this
      omega
    · rw [hstop, htext, eq_of_literalBody? hbody]
      exact slice?_literal hq ..

theorem literalsSafe (text : String) : LiteralsSafe text := by
  have hspans : ∀ l ∈ literals text, ∃ stop, l.Spans text stop := by
    intro l hl
    obtain ⟨body, ht, hvalue⟩ := mem_literals_iff.1 hl
    have hspans := spans_of_mem_placed ht
    rw [← hvalue] at hspans
    exact ⟨_, hspans⟩
  have hapart : (literals text).Pairwise fun l l' =>
      ∀ stop, l.Spans text stop → stop ≤ l'.offset := by
    rw [literals, List.pairwise_filterMap]
    refine (pairwise_placed 0 _).imp_of_mem ?_
    intro p p' hp _ hle l hl l' hl' stop hstop
    obtain ⟨body, rfl, -⟩ := Literal.ofToken?_eq_some_iff.1 hl
    obtain ⟨body', rfl, -⟩ := Literal.ofToken?_eq_some_iff.1 hl'
    -- The end of a literal is searched for, so there is no other one than that of its token.
    obtain rfl := Option.some.inj (hstop.stop_eq.symm.trans (spans_of_mem_placed hp).stop_eq)
    exact hle
  refine ⟨?_, ?_, ?_, hspans, hapart⟩
  · have hfound := literalsFrom_append [] text.toList
    rwa [List.nil_append, size_nil] at hfound
  · intro i j b l hb hturn
    rw [bytes_eq_encode] at hb
    exact lt_of_literalTurn hb hturn
  · refine hapart.imp_of_mem fun {l l'} hl _ hle => ?_
    obtain ⟨stop, hstop⟩ := hspans l hl
    have := lt_of_literalStop? hstop.stop_eq
    have := hle stop hstop
    omega

/-! ## Members -/

/-- Where the line of byte `offset` begins, none if the text was to be cut within a character. -/
def lineStart? (cs : List Char) (offset : Nat) : Option Nat :=
  (slice? cs 0 offset).map fun before => ((rfind? '\n' before).map (· + 1)).getD 0

/-- The byte range of the member whose definition starts at byte `offset`. No answer at all if the
text was to be cut within a character. -/
def memberRange? (cs : List Char) (offset : Nat) : Option (Option (Nat × Nat)) :=
  if offset < (encode cs).length ∧ (tail? cs offset).isSome then
    (lineStart? cs offset).bind fun start =>
      (stopFrom cs offset 0).map fun stop => stop.map fun stop => (start, stop)
  else some none

/-- The bounds of a member: it begins with the line of its definition and ends behind that with a
semicolon or a brace, and its text is cut out between them. -/
structure Member.Bounded (text : String) (offset : Nat) (m : Member) : Prop where
  line : LineStart (bytes text) offset m.start
  lt_stop : offset < m.stop
  stop_le : m.stop ≤ text.utf8ByteSize
  start_valid : String.Pos.Raw.IsValid text ⟨m.start⟩
  stop_valid : String.Pos.Raw.IsValid text ⟨m.stop⟩
  last : (bytes text)[m.stop - 1]? = some ';'.toUInt8 ∨ (bytes text)[m.stop - 1]? = some '}'.toUInt8
  text_eq : slice? text.toList m.start m.stop = some m.text.toList

/-- The search for the member at an offset cuts between characters only, goes on in every turn, and
finds a bounded member if it finds one. -/
structure MemberSafe (text : String) (offset : Nat) : Prop where
  found : memberRange? text.toList offset =
    some ((member? text offset).map fun m => (m.start, m.stop))
  moves_on {i j depth depth' : Nat} {b : UInt8} (hb : (bytes text)[i]? = some b)
    (hturn : memberTurn text.toList i depth b = .goesOn j depth') : i < j
  bounded : ∀ m, member? text offset = some m → m.Bounded text offset

theorem lineStart?_append (before after : List Char) :
    lineStart? (before ++ after) (size before) = some (size before - size (lineLead before)) := by
  have hslice := slice?_append [] before after
  rw [List.nil_append, size_nil, Nat.zero_add] at hslice
  obtain ⟨front, hbefore, hnewline, hfront⟩ := exists_append_lineLead before
  rw [lineStart?, hslice, Option.map_some]
  generalize lineLead before = lead at hbefore hnewline ⊢
  rcases hfront with rfl | ⟨lines, rfl⟩
  · rw [List.nil_append] at hbefore
    rw [hbefore, rfind?_of_not_mem hnewline, Option.map_none, Option.getD_none, Nat.sub_self]
  · have hsize : size before - size lead = size lines + 1 := by
      rw [hbefore, size_append, size_append, size_cons, size_nil, IsAscii.utf8Size (by decide)]
      omega
    rw [hsize, hbefore, List.append_assoc, List.singleton_append, rfind?_append hnewline,
      Option.map_some, Option.getD_some]

theorem memberRange?_eq (text : String) (offset : Nat) : memberRange? text.toList offset =
    some ((member? text offset).map fun m => (m.start, m.stop)) := by
  cases hcut : cut? offset text.toList with
  | none =>
    rw [memberRange?, if_neg fun h => by simp [tail?, hcut] at h, member?, hcut, Option.map_none]
  | some p =>
    obtain ⟨before, after⟩ := p
    obtain ⟨htext, rfl⟩ := cut?_eq_some_iff.1 hcut
    have hmember : (member? text (size before)).map (fun m => (m.start, m.stop)) =
        (body? 0 (scan after)).map fun body =>
          (size before - size (lineLead before), size before + size (body.flatMap Token.text)) := by
      rw [member?, hcut]
      simp only [Option.map_map, Function.comp_def]
    rw [hmember, memberRange?]
    cases after with
    | nil =>
      rw [if_neg, scan_nil]
      · rfl
      · rintro ⟨hlt, -⟩
        rw [htext, List.append_nil, length_encode] at hlt
        exact Nat.lt_irrefl _ hlt
    | cons c r =>
      have hpos := c.utf8Size_pos
      rw [if_pos, htext, lineStart?_append, stopFrom_append]
      · simp only [Option.bind_some, Option.map_some, Option.map_map, Function.comp_def]
      · rw [htext, length_encode, size_append, size_cons, tail?_append]
        exact ⟨by omega, rfl⟩

theorem last_of_member? {text : String} {offset : Nat} {m : Member}
    (h : member? text offset = some m) :
    (bytes text)[m.stop - 1]? = some ';'.toUInt8 ∨
      (bytes text)[m.stop - 1]? = some '}'.toUInt8 := by
  obtain ⟨before, after, body, hcut, hbody, rfl⟩ := member?_eq_some_iff.1 h
  obtain ⟨htext, rfl⟩ := cut?_eq_some_iff.1 hcut
  obtain ⟨front, c, rfl, hc⟩ := exists_last_of_body? hbody
  obtain ⟨ts, hts⟩ := prefix_of_body? hbody
  have hascii : IsAscii c := by rcases hc with rfl | rfl <;> decide
  have hcs : text.toList =
      (before ++ front.flatMap Token.text) ++ c :: ts.flatMap Token.text := by
    rw [htext, ← text_scan after, ← hts]
    simp [Token.text]
  have hstop : size before + size ((front ++ [Token.plain c]).flatMap Token.text) - 1 =
      size (before ++ front.flatMap Token.text) := by
    rw [List.flatMap_append, List.flatMap_singleton, Token.text, size_append, size_append,
      size_cons, size_nil, hascii.utf8Size]
    omega
  rw [hstop, bytes_eq_encode, hcs, getElem?_of_isAscii hascii]
  rcases hc with rfl | rfl
  · exact .inl rfl
  · exact .inr rfl

theorem bounded_of_member? {text : String} {offset : Nat} {m : Member}
    (h : member? text offset = some m) : m.Bounded text offset := by
  obtain ⟨⟨front, rest, htext, hstart, hstop⟩, -, hlt⟩ := located_of_member? h
  have hslice : slice? text.toList m.start m.stop = some m.text.toList := by
    have hcut := slice?_append front.toList m.text.toList rest.toList
    simp only [size_eq_utf8ByteSize, String.ofList_toList] at hcut
    rw [htext, String.toList_append, String.toList_append, List.append_assoc, hstop, ← hstart]
    exact hcut
  have hvalid : ∀ {before after : String} {i : Nat}, text = before ++ after →
      before.utf8ByteSize = i → String.Pos.Raw.IsValid text ⟨i⟩ := by
    rintro before after i rfl rfl
    exact String.Pos.Raw.isValid_iff_exists_append.2 ⟨before, after, rfl, rfl⟩
  have hlength := congrArg String.utf8ByteSize htext
  simp only [String.utf8ByteSize_append] at hlength
  refine ⟨?_, hlt, by omega, hvalid (htext.trans (String.append_assoc ..)) hstart,
    hvalid htext (by rw [String.utf8ByteSize_append]; omega), ?_, hslice⟩
  · obtain ⟨before, after, body, hcut, -, rfl⟩ := member?_eq_some_iff.1 h
    exact lineStart_lineLead hcut
  · exact last_of_member? h

/-- **Indices into a text are safe**, in the search for its literals and in the search for a member
of it. Both cut between characters only and go on in every turn. The literals found stand apart, in
ascending order, each between two quotes. A member found begins with the line of its definition and
ends behind it, with a semicolon or a brace. -/
theorem indices_safe (text : String) :
    LiteralsSafe text ∧ ∀ offset, MemberSafe text offset := by
  refine ⟨literalsSafe text, fun offset => ⟨memberRange?_eq text offset, ?_,
    fun m => bounded_of_member?⟩⟩
  intro i j depth depth' b hb hturn
  rw [bytes_eq_encode] at hb
  exact lt_of_memberTurn hb hturn

/-- A backslash before a longer character takes only its first byte along. -/
example : literals "\"\\é\" '\\ß" = [⟨0, "\\é"⟩] := by decide +kernel

end Source
end DexQuery
