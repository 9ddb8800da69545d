import DexQuery.Proofs.Source.Placed
import DexQuery.Proofs.Source.Walk

/-!
# Where the search for literals comes by

The index of the search for literals stands at the beginning of a token, at the end of the text, or
within a character of more than one byte (`Source.standing_of_visited`), and it comes to the
beginning of every token (`Source.visited_of_scan`). So where it stands between two characters, the
tokens of the text go on with those of what is behind it (`Source.Visited.scan`).
-/

namespace DexQuery
namespace Source

open Text

/-- The indices that the search for literals comes to, the end of the text included. -/
inductive Visited (cs : List Char) : Nat → Prop
  | start : Visited cs 0
  | turn {i j : Nat} {b : UInt8} {l : Option Literal} (h : Visited cs i)
      (hb : (encode cs)[i]? = some b) (hturn : literalTurn cs i b = some (j, l)) : Visited cs j

theorem Visited.next {before r : List Char} {c : Char}
    (h : Visited (before ++ c :: r) (size before)) :
    Visited (before ++ c :: r) (size before + size (next c r).1.text) := by
  by_cases hc : IsAscii c
  · exact h.turn (getElem?_of_isAscii hc) (literalTurn_append hc before r)
  · rw [next_of_not_isAscii hc]
    exact pass_char hc before r
      (fun i b hb hhigh hi => hi.turn hb (literalTurn_of_isHigh hhigh _ i)) h

theorem Visited.tokens {before after : List Char} (h : Visited (before ++ after) (size before))
    {front rest : List Token} (hscan : scan after = front ++ rest) :
    Visited (before ++ after) (size before + size (front.flatMap Token.text)) := by
  induction front generalizing before after with
  | nil => exact h
  | cons t front ih =>
    cases after with
    | nil =>
      rw [scan_nil] at hscan
      cases hscan
    | cons c r =>
      rw [scan_cons] at hscan
      obtain ⟨rfl, hrest⟩ := List.cons.inj hscan
      have hnext := h.next
      rw [← size_append] at hnext
      rw [append_next] at hnext ⊢
      rw [List.flatMap_cons, size_append, ← Nat.add_assoc, ← size_append]
      exact ih hnext hrest

/-- The index comes to the beginning of every token, and to the end. -/
theorem visited_of_scan {cs : List Char} {front rest : List Token} (h : scan cs = front ++ rest) :
    Visited cs (size (front.flatMap Token.text)) := by
  have hstart : Visited ([] ++ cs) (size []) := .start
  have hvisited := hstart.tokens h
  rwa [List.nil_append, size_nil, Nat.zero_add] at hvisited

/-- Where an index stands: at the beginning of a token or at the end, or within a character. -/
inductive Standing (cs : List Char) : Nat → Prop
  | token {front rest : List Token} (h : scan cs = front ++ rest) :
      Standing cs (size (front.flatMap Token.text))
  | within {front rest : List Token} {c : Char} {k : Nat} (h : scan cs = front ++ .plain c :: rest)
      (hc : ¬ IsAscii c) (hpos : 0 < k) (hlt : k < c.utf8Size) :
      Standing cs (size (front.flatMap Token.text) + k)

theorem one_lt_utf8Size {c : Char} (hc : ¬ IsAscii c) : 1 < c.utf8Size := by
  have hpos := c.utf8Size_pos
  by_contra hle
  have hone : c.utf8Size = 1 := by omega
  rw [Char.utf8Size_eq_one_iff, UInt32.le_iff_toNat_le] at hone
  exact hc (Nat.lt_succ_of_le hone)

/-- Behind a token begins the next one, or the text ends. -/
theorem standing_behind {cs : List Char} {front rest : List Token} {t : Token}
    (h : scan cs = front ++ t :: rest) :
    Standing cs (size (front.flatMap Token.text) + size t.text) := by
  rw [List.append_cons] at h
  have hstanding := Standing.token h
  rwa [List.flatMap_append, List.flatMap_singleton, size_append] at hstanding

/-- The text from a token on, of which it is the first. -/
theorem exists_cons_of_scan {cs : List Char} {front rest : List Token} {t : Token}
    (h : scan cs = front ++ t :: rest) : ∃ c r, cs = front.flatMap Token.text ++ c :: r ∧
      (next c r).1 = t ∧ c :: r = t.text ++ rest.flatMap Token.text := by
  obtain ⟨c, r, hcons⟩ := List.exists_cons_of_ne_nil t.text_ne_nil
  have hrest := scan_of_append h
  rw [List.flatMap_cons, hcons, List.cons_append, scan_cons] at hrest
  refine ⟨c, r ++ rest.flatMap Token.text, ?_, (List.cons.inj hrest).1, by rw [hcons]; rfl⟩
  rw [← List.cons_append, ← hcons, ← List.flatMap_cons, ← List.flatMap_append, ← h, text_scan]

/-- Within a character, and at the beginning of one of more than one byte, the index goes on by one
byte. -/
theorem turn_within {cs before r : List Char} {c : Char} {j k : Nat} {b : UInt8}
    {l : Option Literal} (hcs : cs = before ++ c :: r) (hc : ¬ IsAscii c) (hk : k < c.utf8Size)
    (hb : (encode cs)[size before + k]? = some b)
    (hturn : literalTurn cs (size before + k) b = some (j, l)) : j = size before + (k + 1) := by
  obtain ⟨b', hmem, hbyte⟩ := getElem?_encode_char before r hk
  rw [hcs, hbyte] at hb
  obtain rfl := Option.some.inj hb
  rw [literalTurn_of_isHigh (isHigh_of_mem_encodeChar hc hmem)] at hturn
  exact (Prod.mk.inj (Option.some.inj hturn)).1.symm

/-- From where it stands the index comes to a place of the same kind. -/
theorem Standing.turn {cs : List Char} {i j : Nat} {b : UInt8} {l : Option Literal}
    (h : Standing cs i) (hb : (encode cs)[i]? = some b)
    (hturn : literalTurn cs i b = some (j, l)) : Standing cs j := by
  cases h with
  | @token front rest h =>
    cases rest with
    | nil =>
      rw [List.append_nil] at h
      rw [← h, text_scan, ← length_encode, List.getElem?_eq_none (Nat.le_refl _)] at hb
      cases hb
    | cons t rest =>
      obtain ⟨c, r, hcs, ht, -⟩ := exists_cons_of_scan h
      by_cases hc : IsAscii c
      · rw [hcs, getElem?_of_isAscii hc] at hb
        obtain rfl := Option.some.inj hb
        rw [hcs, literalTurn_append hc, ht] at hturn
        obtain ⟨rfl, -⟩ := Prod.mk.inj (Option.some.inj hturn)
        exact standing_behind h
      · rw [next_of_not_isAscii hc] at ht
        subst ht
        obtain rfl := turn_within (k := 0) hcs hc c.utf8Size_pos hb hturn
        exact .within h hc Nat.one_pos (one_lt_utf8Size hc)
  | @within front rest c k h hc hpos hlt =>
    obtain ⟨d, r, hcs, -, hd⟩ := exists_cons_of_scan h
    obtain ⟨rfl, -⟩ := List.cons.inj hd
    obtain rfl := turn_within hcs hc hlt hb hturn
    rcases Nat.lt_or_ge (k + 1) d.utf8Size with hin | hout
    · exact .within h hc (Nat.succ_pos k) hin
    · have hbehind := standing_behind h
      rw [Token.text, size_cons, size_nil, Nat.add_zero, ← Nat.le_antisymm hlt hout] at hbehind
      exact hbehind

theorem standing_of_visited {cs : List Char} {i : Nat} (h : Visited cs i) : Standing cs i := by
  induction h with
  | start => exact .token (List.nil_append _).symm
  | turn _ hb hturn ih => exact ih.turn hb hturn

/-- **Between characters the index stands at a token**, and the tokens from there on are those of
the text from there on. -/
theorem Visited.scan {cs before after : List Char} {i : Nat} (h : Visited cs i)
    (hcut : cut? i cs = some (before, after)) :
    ∃ front, Source.scan cs = front ++ Source.scan after ∧ front.flatMap Token.text = before := by
  obtain ⟨hcs, hsize⟩ := cut?_eq_some_iff.1 hcut
  cases standing_of_visited h with
  | @token front rest hscan =>
    have htext : cs = front.flatMap Token.text ++ rest.flatMap Token.text := by
      rw [← List.flatMap_append, ← hscan, text_scan]
    obtain ⟨hbefore, rfl⟩ := Prod.mk.inj (Option.some.inj
      (hcut.symm.trans (cut?_eq_some_iff.2 ⟨htext, rfl⟩)))
    exact ⟨front, by rw [scan_of_append hscan, hscan], hbefore.symm⟩
  | @within front rest c k hscan hc hpos hlt =>
    obtain ⟨d, r, htext, -, hd⟩ := exists_cons_of_scan hscan
    obtain ⟨rfl, -⟩ := List.cons.inj hd
    obtain ⟨x, hx, hrest⟩ := exists_append_of_size_le (htext.symm.trans hcs) (by omega)
    rw [hx, size_append] at hsize
    cases x with
    | nil =>
      rw [size_nil] at hsize
      omega
    | cons e x =>
      obtain ⟨rfl, -⟩ := List.cons.inj hrest
      rw [size_cons] at hsize
      omega

end Source
end DexQuery
