import DexQuery.Proofs.Source.Brace
import DexQuery.Proofs.Source.Placed
import DexQuery.Proofs.Source.Turn

/-!
# Searches by byte indices

Turn after turn an index goes over a text, in one search for its literals and in another one for the
end of a member. Both go over the tokens of the text from where they begin. So they find the
literals and the end that are found by the characters, and no text is cut within a character on the
way (`Source.literalsFrom_append`, `Source.stopFrom_append`).
-/

namespace DexQuery
namespace Source

open Text

/-! ## The search for literals -/

/-- The literals from byte `i` on. None if a text was to be cut within a character. -/
def literalsFrom (cs : List Char) (i : Nat) : Option (List Literal) :=
  match _byte : (encode cs)[i]? with
  | none => some []
  | some b =>
    match _turn : literalTurn cs i b with
    | none => none
    | some (j, l) => (literalsFrom cs j).map (l.toList ++ ·)
termination_by (encode cs).length - i
decreasing_by
  have hlt := lt_of_literalTurn _byte _turn
  have hi := (List.getElem?_eq_some_iff.1 _byte).1
  omega

theorem literalsFrom_of_none {cs : List Char} {i : Nat} (h : (encode cs)[i]? = none) :
    literalsFrom cs i = some [] := by
  rw [literalsFrom]
  split
  · rfl
  · rename_i b hb
    rw [h] at hb
    cases hb

theorem literalsFrom_of_turn {cs : List Char} {i j : Nat} {b : UInt8} {l : Option Literal}
    (hb : (encode cs)[i]? = some b) (hturn : literalTurn cs i b = some (j, l)) :
    literalsFrom cs i = (literalsFrom cs j).map (l.toList ++ ·) := by
  rw [literalsFrom]
  split
  · rename_i hnone
    rw [hb] at hnone
    cases hnone
  · rename_i b' hb'
    obtain rfl := Option.some.inj (hb.symm.trans hb')
    split
    · rename_i hnone
      rw [hturn] at hnone
      cases hnone
    · rename_i j' l' hturn'
      obtain ⟨rfl, rfl⟩ := Prod.mk.inj (Option.some.inj (hturn.symm.trans hturn'))
      rfl

/-- The text behind a token begins where a turn over it leads. -/
theorem append_next (before : List Char) (c : Char) (r : List Char) :
    before ++ c :: r = (before ++ (next c r).1.text) ++ (next c r).2 := by
  rw [List.append_assoc, text_next]

/-- A character of more than one byte is a token by itself. -/
theorem next_of_not_isAscii {c : Char} (hc : ¬ IsAscii c) (r : List Char) :
    next c r = (.plain c, r) := by
  refine next_plain (fun hq => hc hq.isAscii) fun hcomment => ?_
  obtain rfl : c = '/' := hcomment.1
  exact hc (by decide)

theorem filterMap_cons_toList {α β : Type} (f : α → Option β) (a : α) (as : List α) :
    (a :: as).filterMap f = (f a).toList ++ as.filterMap f := by
  rw [List.filterMap_cons]
  cases f a <;> rfl

/-- **The index finds the literals that the characters show**, and no text is cut within a
character. -/
theorem literalsFrom_append (before after : List Char) :
    literalsFrom (before ++ after) (size before) =
      some ((placed (size before) (scan after)).filterMap Literal.ofToken?) := by
  fun_induction scan after generalizing before with
  | case1 =>
    refine literalsFrom_of_none ?_
    simp
  | case2 c r ih =>
    have hrest := ih (before ++ (next c r).1.text)
    rw [← append_next, size_append] at hrest
    rw [placed, filterMap_cons_toList]
    by_cases hc : IsAscii c
    · rw [literalsFrom_of_turn (getElem?_of_isAscii hc) (literalTurn_append hc before r), hrest,
        Option.map_some]
    · have hpass : literalsFrom (before ++ c :: r) (size before) =
          literalsFrom (before ++ c :: r) (size before + c.utf8Size) := by
        refine pass_char (P := fun i => literalsFrom (before ++ c :: r) (size before) =
          literalsFrom (before ++ c :: r) i) hc before r ?_ rfl
        intro i b hb hhigh h
        rw [h, literalsFrom_of_turn hb (literalTurn_of_isHigh hhigh ..)]
        simp
      rw [next_of_not_isAscii hc] at hrest ⊢
      rw [hpass]
      exact hrest

/-! ## The search for the end of a member -/

/-- The index behind the member that goes on at byte `i` with `depth` open braces, none if it has no
end; no answer at all if a text was to be cut within a character. -/
def stopFrom (cs : List Char) (i depth : Nat) : Option (Option Nat) :=
  match _byte : (encode cs)[i]? with
  | none => some none
  | some b =>
    match _turn : memberTurn cs i depth b with
    | .goesOn j depth' => stopFrom cs j depth'
    | .ends j => some (some j)
    | .givesUp => some none
    | .badCut => none
termination_by (encode cs).length - i
decreasing_by
  have hlt := lt_of_memberTurn _byte _turn
  have hi := (List.getElem?_eq_some_iff.1 _byte).1
  omega

/-- What a turn comes to, the search does. -/
theorem stopFrom_of_turn {cs : List Char} {i depth : Nat} {b : UInt8}
    (hb : (encode cs)[i]? = some b) : stopFrom cs i depth =
      match memberTurn cs i depth b with
      | .goesOn j depth' => stopFrom cs j depth'
      | .ends j => some (some j)
      | .givesUp => some none
      | .badCut => none := by
  rw [stopFrom]
  split
  · rename_i hnone
    rw [hb] at hnone
    cases hnone
  · rename_i b' hb'
    obtain rfl := Option.some.inj (hb.symm.trans hb')
    split <;> rename_i hturn <;> rw [hturn]

theorem stopFrom_of_none {cs : List Char} {i depth : Nat} (h : (encode cs)[i]? = none) :
    stopFrom cs i depth = some none := by
  rw [stopFrom]
  split
  · rfl
  · rename_i b hb
    rw [h] at hb
    cases hb

/-- What the search comes to at a token below 128, the tokens of a member do. -/
theorem Token.turn_cases {t : Token} (ht : ∀ c, t = .plain c → IsAscii c) (i depth : Nat)
    (ts : List Token) :
    (∃ d, t.turn i depth = .goesOn (i + size t.text) d ∧
      body? depth (t :: ts) = (body? d ts).map (t :: ·)) ∨
    (t.turn i depth = .ends (i + size t.text) ∧ body? depth (t :: ts) = some [t]) ∨
    (t.turn i depth = .givesUp ∧ body? depth (t :: ts) = none) := by
  cases t with
  | stray q => exact .inr (.inr ⟨rfl, rfl⟩)
  | openComment body => exact .inr (.inr ⟨rfl, rfl⟩)
  | literal q body => exact .inl ⟨depth, rfl, rfl⟩
  | lineComment body => exact .inl ⟨depth, rfl, rfl⟩
  | blockComment body => exact .inl ⟨depth, rfl, rfl⟩
  | plain c =>
    have hsize : size (Token.plain c).text = 1 := by
      rw [Token.text, size_cons, size_nil, (ht c rfl).utf8Size]
    rw [hsize, Token.turn]
    by_cases hsemicolon : c = ';' ∧ depth = 0
    · obtain ⟨rfl, rfl⟩ := hsemicolon
      exact .inr (.inl ⟨rfl, rfl⟩)
    rw [if_neg hsemicolon]
    by_cases hopen : c = '{'
    · subst hopen
      exact .inl ⟨depth + 1, rfl, body?_open depth ts⟩
    rw [if_neg hopen]
    by_cases hclose : c = '}'
    · subst hclose
      obtain _ | _ | d := depth
      · exact .inr (.inr ⟨rfl, rfl⟩)
      · exact .inr (.inl ⟨rfl, rfl⟩)
      · exact .inl ⟨d + 1, rfl, body?_close d ts⟩
    · rw [if_neg hclose]
      exact .inl ⟨depth, rfl, body?_plain hsemicolon hopen hclose ts⟩

/-- **The index finds the end that the tokens show**, and no text is cut within a character. -/
theorem stopFrom_append (before after : List Char) (depth : Nat) :
    stopFrom (before ++ after) (size before) depth =
      some ((body? depth (scan after)).map fun body =>
        size before + size (body.flatMap Token.text)) := by
  fun_induction scan after generalizing before depth with
  | case1 =>
    refine stopFrom_of_none ?_
    simp
  | case2 c r ih =>
    have hrest := ih (before ++ (next c r).1.text)
    rw [← append_next, size_append] at hrest
    -- With the token in front the end is as much further on as that is long.
    have hsum : ∀ (t : Token) (body : Option (List Token)),
        (body.map fun body => size before + size t.text + size (body.flatMap Token.text)) =
          (body.map (t :: ·)).map fun body => size before + size (body.flatMap Token.text) := by
      intro t body
      simp only [Option.map_map, Function.comp_def, List.flatMap_cons, size_append, Nat.add_assoc]
    by_cases hc : IsAscii c
    · have hplain : ∀ d, (next c r).1 = .plain d → IsAscii d := by
        intro d hd
        have htext := text_next c r
        rw [hd] at htext
        rwa [(List.cons.inj htext).1]
      rw [stopFrom_of_turn (getElem?_of_isAscii hc), memberTurn_append hc]
      rcases Token.turn_cases hplain (size before) depth (scan (next c r).2) with
        ⟨d, hturn, hbody⟩ | ⟨hturn, hbody⟩ | ⟨hturn, hbody⟩
      · rw [hturn, hbody, ← hsum]
        exact hrest d
      · rw [hturn, hbody, Option.map_some, List.flatMap_singleton]
      · rw [hturn, hbody, Option.map_none]
    · have hpass : stopFrom (before ++ c :: r) (size before) depth =
          stopFrom (before ++ c :: r) (size before + c.utf8Size) depth := by
        refine pass_char (P := fun i => stopFrom (before ++ c :: r) (size before) depth =
          stopFrom (before ++ c :: r) i depth) hc before r ?_ rfl
        intro i b hb hhigh h
        rw [h, stopFrom_of_turn hb, memberTurn_of_isHigh hhigh]
      have hne : ∀ x, IsAscii x → c ≠ x := by
        rintro x hx rfl
        exact hc hx
      rw [next_of_not_isAscii hc] at hrest ⊢
      rw [hpass, body?_plain (fun h => hne ';' (by decide) h.1) (hne '{' (by decide))
        (hne '}' (by decide)), ← hsum]
      exact hrest depth

end Source
end DexQuery
