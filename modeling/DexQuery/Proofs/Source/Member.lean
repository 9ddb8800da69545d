import DexQuery.Proofs.Text.Encoding
import DexQuery.Source.Member

/-!
# Where a member stands in its unit

The text of a member is a stretch of the text of its unit, and the offset of its definition lies in
that stretch (`Source.located_of_member?`): it begins where the line of the definition begins, and
it ends with a token behind the definition.
-/

namespace DexQuery
namespace Source

open Text

/-! ## The tokens of a member -/

/-- The token has an end: it is no quote without a partner and no comment that runs to the end of
the text. -/
def Token.IsWhole (t : Token) : Prop := (∀ q, t ≠ .stray q) ∧ ∀ body, t ≠ .openComment body

theorem Token.isWhole_plain (c : Char) : (Token.plain c).IsWhole := ⟨by simp, by simp⟩

/-- A member is a last semicolon or brace, with tokens in front that have an end. What it begins is
`ts`. -/
theorem body?_induction {P : List Token → List Token → Prop}
    (hlast : ∀ {c} ts, c = ';' ∨ c = '}' → P (.plain c :: ts) [.plain c])
    (hcons : ∀ {t ts body}, t.IsWhole → P ts body → P (t :: ts) (t :: body))
    {depth : Nat} {ts body : List Token} (h : body? depth ts = some body) : P ts body := by
  have hmap : ∀ {t : Token} {ts : List Token} {rest : Option (List Token)} {body : List Token},
      t.IsWhole → (∀ {b}, rest = some b → P ts b) → rest.map (t :: ·) = some body →
      P (t :: ts) body := by
    intro t ts rest body ht hrest h
    obtain ⟨b, hb, rfl⟩ := Option.map_eq_some_iff.1 h
    exact hcons ht (hrest hb)
  fun_induction body? depth ts generalizing body with
  | case1 | case2 | case3 | case6 => cases h
  | case4 depth c ts hc =>
    cases h
    exact hlast ts (.inl hc.1)
  | case7 =>
    cases h
    exact hlast _ (.inr rfl)
  | case5 depth ts _ ih => exact hmap (Token.isWhole_plain _) ih h
  | case8 ts d _ _ ih => exact hmap (Token.isWhole_plain _) ih h
  | case9 depth c ts _ _ _ ih => exact hmap (Token.isWhole_plain c) ih h
  | case10 depth t ts hstray hcomment _ ih => exact hmap ⟨hstray, hcomment⟩ ih h

/-- The tokens of a member are the first of those from its definition on. -/
theorem prefix_of_body? {depth : Nat} {ts body : List Token} (h : body? depth ts = some body) :
    body <+: ts :=
  body?_induction (P := fun ts body => body <+: ts)
    (fun _ _ => List.cons_prefix_cons.2 ⟨rfl, List.nil_prefix⟩)
    (fun _ hbody => List.cons_prefix_cons.2 ⟨rfl, hbody⟩) h

/-- All of them have an end. -/
theorem isWhole_of_body? {depth : Nat} {ts body : List Token} (h : body? depth ts = some body) :
    ∀ t ∈ body, t.IsWhole :=
  body?_induction (P := fun _ body => ∀ t ∈ body, t.IsWhole)
    (fun {c} _ _ => List.forall_mem_singleton.2 (Token.isWhole_plain c))
    (fun ht hbody => List.forall_mem_cons.2 ⟨ht, hbody⟩) h

/-- The last one is a semicolon or a brace. -/
theorem exists_last_of_body? {depth : Nat} {ts body : List Token} (h : body? depth ts = some body) :
    ∃ front c, body = front ++ [.plain c] ∧ (c = ';' ∨ c = '}') := by
  refine body?_induction (P := fun _ body => ∃ front c, body = front ++ [.plain c] ∧
    (c = ';' ∨ c = '}')) (fun {c} _ hc => ⟨[], c, rfl, hc⟩) ?_ h
  rintro t _ _ - ⟨front, c, rfl, hc⟩
  exact ⟨t :: front, c, rfl, hc⟩

theorem ne_nil_of_body? {depth : Nat} {ts body : List Token} (h : body? depth ts = some body) :
    body ≠ [] := by
  obtain ⟨front, c, rfl, -⟩ := exists_last_of_body? h
  exact List.append_ne_nil_of_right_ne_nil front (List.cons_ne_nil _ _)

/-! ## The text of a member -/

/-- The part of a line before a definition is what follows the last newline. -/
theorem exists_append_lineLead (before : List Char) : ∃ front,
    before = front ++ lineLead before ∧ '\n' ∉ lineLead before ∧
      (front = [] ∨ ∃ lines, front = lines ++ ['\n']) := by
  refine ⟨(before.reverse.dropWhile (· ≠ '\n')).reverse, ?_, ?_, ?_⟩
  · rw [lineLead, ← List.reverse_append, List.takeWhile_append_dropWhile, List.reverse_reverse]
  · rw [lineLead, List.mem_reverse]
    intro hmem
    have hkept := List.all_takeWhile (p := fun c => decide (c ≠ '\n')) (l := before.reverse)
    exact absurd (List.all_eq_true.1 hkept '\n' hmem) (by decide)
  · cases hrest : before.reverse.dropWhile (· ≠ '\n') with
    | nil => exact .inl rfl
    | cons c r =>
      have hc := List.head?_dropWhile_not (· ≠ '\n') before.reverse
      rw [hrest] at hc
      obtain rfl : c = '\n' := by simpa using hc
      exact .inr ⟨r.reverse, List.reverse_cons⟩

theorem member?_eq_some_iff {text : String} {offset : Nat} {m : Member} :
    member? text offset = some m ↔ ∃ before after body,
      cut? offset text.toList = some (before, after) ∧ body? 0 (scan after) = some body ∧
      m = ⟨offset - size (lineLead before), offset + size (body.flatMap Token.text),
        String.ofList (lineLead before ++ body.flatMap Token.text)⟩ := by
  unfold member?
  cases cut? offset text.toList with
  | none => simp
  | some p =>
    obtain ⟨before, after⟩ := p
    simp only [Option.map_eq_some_iff, Option.some.injEq, Prod.mk.injEq]
    constructor
    · rintro ⟨body, hbody, rfl⟩
      exact ⟨before, after, body, ⟨rfl, rfl⟩, hbody, rfl⟩
    · rintro ⟨_, _, body, ⟨rfl, rfl⟩, hbody, rfl⟩
      exact ⟨body, hbody, rfl⟩

/-- The text of the member stands at its byte range in the text, and the offset lies in there. -/
structure Located (text : String) (offset : Nat) (m : Member) : Prop where
  stretch : ∃ front rest, text = front ++ m.text ++ rest ∧ front.utf8ByteSize = m.start ∧
    m.stop = m.start + m.text.utf8ByteSize
  start_le : m.start ≤ offset
  lt_stop : offset < m.stop

/-- **A member is a stretch of its unit** that holds its definition. -/
theorem located_of_member? {text : String} {offset : Nat} {m : Member}
    (h : member? text offset = some m) : Located text offset m := by
  obtain ⟨before, after, body, hcut, hbody, rfl⟩ := member?_eq_some_iff.1 h
  obtain ⟨htext, hoffset⟩ := cut?_eq_some_iff.1 hcut
  obtain ⟨front, hbefore, -, -⟩ := exists_append_lineLead before
  have hsize : size before = size front + size (lineLead before) := by
    rw [← size_append, ← hbefore]
  have hafter : ∃ rest, after = body.flatMap Token.text ++ rest := by
    obtain ⟨ts, hts⟩ := prefix_of_body? hbody
    exact ⟨ts.flatMap Token.text, by rw [← List.flatMap_append, hts, text_scan]⟩
  have hpos : 0 < size (body.flatMap Token.text) := by
    obtain ⟨t, ts, rfl⟩ := List.exists_cons_of_ne_nil (ne_nil_of_body? hbody)
    have hlen := List.length_pos_iff.2 t.text_ne_nil
    have hle := length_le_size t.text
    rw [List.flatMap_cons, size_append]
    omega
  obtain ⟨rest, rfl⟩ := hafter
  refine ⟨⟨String.ofList front, String.ofList rest, ?_, ?_, ?_⟩, Nat.sub_le _ _,
    Nat.lt_add_of_pos_right hpos⟩
  · rw [← String.toList_inj]
    simp only [String.toList_append, String.toList_ofList]
    rw [htext]
    conv_lhs => rw [hbefore]
    simp only [List.append_assoc]
  · rw [← size_eq_utf8ByteSize]
    exact (Nat.sub_eq_of_eq_add (hoffset ▸ hsize)).symm
  · rw [← size_eq_utf8ByteSize, size_append]
    change offset + _ = offset - _ + (_ + _)
    omega

end Source
end DexQuery
