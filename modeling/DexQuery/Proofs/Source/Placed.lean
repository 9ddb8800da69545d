import DexQuery.Proofs.Source.Member
import DexQuery.Proofs.Source.Token
import DexQuery.Source.Literal

/-!
# The tokens of a unit that begin in a member

A unit is scanned from its beginning, a member from its definition. If the definition begins with a
token of the unit, the two scans agree from there on (`Source.scan_of_append`), so the member ends
with a token of the unit, and a token that begins in the member is whole in its text
(`Source.exists_append_of_mem_placed`).
-/

namespace DexQuery
namespace Source

open Text

/-! ## Tokens at their places -/

theorem mem_placed_iff {n d : Nat} {t : Token} {ts : List Token} : (d, t) ∈ placed n ts ↔
    ∃ before after, ts = before ++ t :: after ∧ d = n + size (before.flatMap Token.text) := by
  constructor
  · intro h
    induction ts generalizing n with
    | nil => cases h
    | cons u ts ih =>
      rcases List.mem_cons.1 h with heq | hrest
      · obtain ⟨rfl, rfl⟩ := Prod.mk.inj heq
        exact ⟨[], ts, rfl, rfl⟩
      · obtain ⟨before, after, rfl, rfl⟩ := ih hrest
        refine ⟨u :: before, after, rfl, ?_⟩
        rw [List.flatMap_cons, size_append, Nat.add_assoc]
  · rintro ⟨before, after, rfl, rfl⟩
    rw [placed_append]
    exact List.mem_append_right _ List.mem_cons_self

/-- What tokens stand for lies between where the first begins and where the last ends. -/
theorem bounds_of_mem_placed {n d : Nat} {t : Token} {ts : List Token} (h : (d, t) ∈ placed n ts) :
    n ≤ d ∧ d + size t.text ≤ n + size (ts.flatMap Token.text) := by
  obtain ⟨before, after, rfl, rfl⟩ := mem_placed_iff.1 h
  rw [List.flatMap_append, List.flatMap_cons, size_append, size_append]
  omega

/-- A token stands in the text at its place. -/
theorem exists_append_of_mem_placed_scan {cs : List Char} {d : Nat} {t : Token}
    (h : (d, t) ∈ placed 0 (scan cs)) :
    ∃ before after, cs = before ++ (t.text ++ after) ∧ size before = d := by
  obtain ⟨before, after, hscan, rfl⟩ := mem_placed_iff.1 h
  refine ⟨before.flatMap Token.text, after.flatMap Token.text, ?_, (Nat.zero_add _).symm⟩
  rw [← List.flatMap_cons, ← List.flatMap_append, ← hscan, text_scan]

/-- **What is left of a scan is the scan of what is left.** -/
theorem scan_of_append {cs : List Char} {before after : List Token}
    (h : scan cs = before ++ after) : scan (after.flatMap Token.text) = after := by
  induction before generalizing cs with
  | nil =>
    rw [List.nil_append] at h
    rw [← h, text_scan]
  | cons t before ih =>
    cases cs with
    | nil =>
      rw [scan_nil] at h
      cases h
    | cons c r =>
      rw [scan_cons] at h
      exact ih (List.cons.inj h).2

/-- Tokens behind a definition that begins with one are those of the scan from the definition. -/
theorem exists_append_scan {cs before after : List Char} {d : Nat} {t : Token}
    (h : (d, t) ∈ placed 0 (scan cs)) (hcut : cut? d cs = some (before, after)) :
    ∃ front, scan cs = front ++ scan after ∧ front.flatMap Token.text = before := by
  obtain ⟨front, rest, hscan, hd⟩ := mem_placed_iff.1 h
  have htext : cs = front.flatMap Token.text ++ (t :: rest).flatMap Token.text := by
    rw [← List.flatMap_append, ← hscan, text_scan]
  have hcut' : cut? d cs = some (front.flatMap Token.text, (t :: rest).flatMap Token.text) :=
    cut?_eq_some_iff.2 ⟨htext, by omega⟩
  obtain ⟨rfl, rfl⟩ := Prod.mk.inj (Option.some.inj (hcut'.symm.trans hcut))
  exact ⟨front, by rw [scan_of_append hscan, hscan], rfl⟩

/-! ## Stretches of a text -/

/-- Of two beginnings of a text the shorter one is a beginning of the other. -/
theorem exists_append_of_size_le {a b c d : List Char} (h : a ++ b = c ++ d)
    (hle : size a ≤ size c) : ∃ x, c = a ++ x ∧ b = x ++ d := by
  rcases List.append_eq_append_iff.1 h with ⟨x, rfl, rfl⟩ | ⟨x, rfl, rfl⟩
  · exact ⟨x, rfl, rfl⟩
  · rw [size_append] at hle
    have hlength := length_le_size x
    obtain rfl : x = [] := List.length_eq_zero_iff.1 (by omega)
    exact ⟨[], by simp, by simp⟩

/-- A stretch of a text that lies between the ends of another is a stretch of that. -/
theorem exists_append_of_between {front stretch rest before inner after : List Char}
    (h : front ++ (stretch ++ rest) = before ++ (inner ++ after))
    (hstart : size front ≤ size before)
    (hstop : size before + size inner ≤ size front + size stretch) :
    ∃ x y, stretch = x ++ (inner ++ y) ∧ size front + size x = size before := by
  obtain ⟨x, rfl, hrest⟩ := exists_append_of_size_le h hstart
  rw [size_append] at hstop ⊢
  rw [← List.append_assoc x] at hrest
  obtain ⟨y, hy, -⟩ := exists_append_of_size_le hrest.symm (by rw [size_append]; omega)
  exact ⟨x, y, by rw [hy, List.append_assoc], rfl⟩

/-! ## Members -/

/-- A token of the unit that begins in a member ends in it. -/
theorem stop_of_mem_placed {text : String} {offset d : Nat} {m : Member} {t u : Token}
    (hm : member? text offset = some m) (hoffset : (offset, u) ∈ placed 0 (scan text.toList))
    (ht : (d, t) ∈ placed 0 (scan text.toList)) (hd : d < m.stop) :
    d + size t.text ≤ m.stop := by
  obtain ⟨before, after, body, hcut, hbody, rfl⟩ := member?_eq_some_iff.1 hm
  obtain ⟨front, hscan, rfl⟩ := exists_append_scan hoffset hcut
  obtain ⟨tail, htail⟩ := prefix_of_body? hbody
  obtain ⟨-, hsize⟩ := cut?_eq_some_iff.1 hcut
  rw [hscan, ← htail, ← List.append_assoc, placed_append, List.mem_append] at ht
  rw [List.flatMap_append, size_append, hsize, Nat.zero_add] at ht
  rcases ht with ht | ht
  · have := (bounds_of_mem_placed ht).2
    rw [List.flatMap_append, size_append, hsize] at this
    change _ ≤ offset + _
    omega
  · have := (bounds_of_mem_placed ht).1
    change d < offset + _ at hd
    omega

/-- **A token that begins in a member is whole in it**, if the definition of the member begins with
a token. -/
theorem exists_append_of_mem_placed {text : String} {offset d : Nat} {m : Member} {t u : Token}
    (hm : member? text offset = some m) (hoffset : (offset, u) ∈ placed 0 (scan text.toList))
    (ht : (d, t) ∈ placed 0 (scan text.toList)) (hstart : m.start ≤ d) (hstop : d < m.stop) :
    ∃ front rest, m.text = front ++ String.ofList t.text ++ rest ∧
      m.start + front.utf8ByteSize = d := by
  obtain ⟨⟨front, rest, htext, hfront, hsize⟩, -, -⟩ := located_of_member? hm
  obtain ⟨before, after, hcs, rfl⟩ := exists_append_of_mem_placed_scan ht
  have hend := stop_of_mem_placed hm hoffset ht hstop
  have hsplit : front.toList ++ (m.text.toList ++ rest.toList) = before ++ (t.text ++ after) := by
    rw [← hcs, htext]
    simp
  have hmsize : size m.text.toList = m.text.utf8ByteSize := by
    rw [size_eq_utf8ByteSize, String.ofList_toList]
  have hfsize : size front.toList = m.start := by
    rw [size_eq_utf8ByteSize, String.ofList_toList, hfront]
  obtain ⟨x, y, hxy, hx⟩ := exists_append_of_between hsplit (by omega) (by omega)
  refine ⟨String.ofList x, String.ofList y, ?_, ?_⟩
  · rw [← String.toList_inj, hxy]
    simp
  · rw [← size_eq_utf8ByteSize, ← hfsize, hx]

/-! ## String literals -/

theorem Literal.ofToken?_eq_some_iff {p : Nat × Token} {l : Literal} : Literal.ofToken? p = some l ↔
    ∃ body, p = (l.offset, Token.literal '"' body) ∧ l.value = String.ofList (unescape body) := by
  constructor
  · intro h
    rw [Literal.ofToken?.eq_def] at h
    split at h
    · rename_i body
      obtain rfl := Option.some.inj h
      exact ⟨body, rfl, rfl⟩
    · cases h
  · rintro ⟨body, rfl, hvalue⟩
    rw [Literal.ofToken?, ← hvalue]

theorem mem_literals_iff {text : String} {l : Literal} : l ∈ literals text ↔
    ∃ body, (l.offset, Token.literal '"' body) ∈ placed 0 (scan text.toList) ∧
      l.value = String.ofList (unescape body) := by
  simp only [literals, List.mem_filterMap, Literal.ofToken?_eq_some_iff]
  constructor
  · rintro ⟨_, ht, body, rfl, hvalue⟩
    exact ⟨body, ht, hvalue⟩
  · rintro ⟨body, ht, hvalue⟩
    exact ⟨_, ht, body, rfl, hvalue⟩

/-- The text of a string literal, from its opening quote to its closing one. -/
structure Quotes (text : String) (l : Literal) (quoted : String) : Prop where
  stands : ∃ before after, text = before ++ quoted ++ after ∧ before.utf8ByteSize = l.offset
  token : ∃ body, (l.offset, Token.literal '"' body) ∈ placed 0 (scan text.toList) ∧
    quoted = String.ofList ('"' :: body ++ ['"']) ∧ l.value = String.ofList (unescape body)

theorem quotes_of_mem_placed {text : String} {l : Literal} {body : List Char}
    (ht : (l.offset, Token.literal '"' body) ∈ placed 0 (scan text.toList))
    (hvalue : l.value = String.ofList (unescape body)) :
    Quotes text l (String.ofList (Token.literal '"' body).text) := by
  obtain ⟨before, after, htext, hoffset⟩ := exists_append_of_mem_placed_scan ht
  refine ⟨⟨String.ofList before, String.ofList after, ?_, ?_⟩, body, ht, rfl, hvalue⟩
  · rw [← String.toList_inj, htext]
    simp
  · rw [← size_eq_utf8ByteSize, hoffset]

/-- **A string literal that begins in a member is whole in it**, if the definition of the member
begins with a token. -/
theorem exists_quotes {text : String} {offset : Nat} {m : Member} {l : Literal} {u : Token}
    (hm : member? text offset = some m) (hoffset : (offset, u) ∈ placed 0 (scan text.toList))
    (hl : l ∈ literals text) (hstart : m.start ≤ l.offset) (hstop : l.offset < m.stop) :
    ∃ quoted, Quotes text l quoted ∧ ∃ front rest, m.text = front ++ quoted ++ rest ∧
      m.start + front.utf8ByteSize = l.offset := by
  obtain ⟨body, ht, hvalue⟩ := mem_literals_iff.1 hl
  exact ⟨_, quotes_of_mem_placed ht hvalue, exists_append_of_mem_placed hm hoffset ht hstart hstop⟩

end Source
end DexQuery
