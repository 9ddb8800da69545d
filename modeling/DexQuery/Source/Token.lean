import DexQuery.Text.Offset

/-!
# Tokens of source text

A source text is cut into literals, comments and single characters. A backslash in a literal takes
the next character with it, and a literal may not run over a newline:

| token | text |
| --- | --- |
| `literal q body` | `q`, the body, `q` |
| `stray q` | a quote `q` that opens no literal |
| `lineComment body` | `//` up to the newline, which is not part of it |
| `blockComment body` | `/*`, the body, `*/` |
| `openComment body` | `/*` and the rest of the text, which holds no `*/` |
| `plain c` | any other character |

The texts of the tokens put together are the text that was cut (`text_scan`).
-/

namespace DexQuery
namespace Source

/-- A token of source text. -/
inductive Token where
  | literal (quote : Char) (body : List Char)
  | stray (quote : Char)
  | lineComment (body : List Char)
  | blockComment (body : List Char)
  | openComment (body : List Char)
  | plain (c : Char)
deriving DecidableEq

/-- The characters that a token stands for. -/
def Token.text : Token → List Char
  | .literal q body => q :: body ++ [q]
  | .stray q => [q]
  | .lineComment body => '/' :: '/' :: body
  | .blockComment body => '/' :: '*' :: body ++ ['*', '/']
  | .openComment body => '/' :: '*' :: body
  | .plain c => [c]

/-- The body of a literal whose opening quote `q` has been read, and the text after its closing
quote. -/
def literalBody? (q : Char) : List Char → Option (List Char × List Char)
  | [] => none
  | [c] => if c = q then some ([], []) else none
  | c :: d :: r =>
    if c = '\\' then (literalBody? q r).map fun p => (c :: d :: p.1, p.2)
    else if c = q then some ([], d :: r)
    else if c = '\n' then none
    else (literalBody? q (d :: r)).map fun p => (c :: p.1, p.2)

theorem eq_of_literalBody? {q : Char} {cs body rest : List Char}
    (h : literalBody? q cs = some (body, rest)) : cs = body ++ q :: rest := by
  fun_induction literalBody? q cs generalizing body with
  | case1 => simp at h
  | case2 => simp at h; simp [h.1, h.2]
  | case3 => simp at h
  | case4 d r ih =>
    obtain ⟨⟨x, y⟩, hxy, hp⟩ := Option.map_eq_some_iff.1 h
    simp at hp
    obtain ⟨rfl, rfl⟩ := hp
    simp [ih hxy]
  | case5 d r _ => simp at h; simp [← h.1, ← h.2]
  | case6 => simp at h
  | case7 c d r _ _ _ ih =>
    obtain ⟨⟨x, y⟩, hxy, hp⟩ := Option.map_eq_some_iff.1 h
    simp at hp
    obtain ⟨rfl, rfl⟩ := hp
    simp [ih hxy]

/-- The text before the first `*/` and the text after it. -/
def closeComment? : List Char → Option (List Char × List Char)
  | '*' :: '/' :: r => some ([], r)
  | [] => none
  | c :: r => (closeComment? r).map fun p => (c :: p.1, p.2)

theorem eq_of_closeComment? {cs body rest : List Char}
    (h : closeComment? cs = some (body, rest)) : cs = body ++ '*' :: '/' :: rest := by
  fun_induction closeComment? cs generalizing body with
  | case1 r => simp at h; simp [← h.1, h.2]
  | case2 => simp at h
  | case3 c r _ ih =>
    obtain ⟨⟨x, y⟩, hxy, hp⟩ := Option.map_eq_some_iff.1 h
    simp at hp
    obtain ⟨rfl, rfl⟩ := hp
    simp [ih hxy]

/-- The token at the front of `c :: r` and the text after it. -/
def next (c : Char) (r : List Char) : Token × List Char :=
  if c = '"' ∨ c = '\'' then
    match literalBody? c r with
    | some (body, rest) => (.literal c body, rest)
    | none => (.stray c, r)
  else if c = '/' then
    match r with
    | '/' :: r' => (.lineComment (r'.takeWhile (· ≠ '\n')), r'.dropWhile (· ≠ '\n'))
    | '*' :: r' =>
      match closeComment? r' with
      | some (body, rest) => (.blockComment body, rest)
      | none => (.openComment r', [])
    | _ => (.plain c, r)
  else (.plain c, r)

theorem text_next (c : Char) (r : List Char) : (next c r).1.text ++ (next c r).2 = c :: r := by
  unfold next
  split
  · split
    · rename_i body rest h
      simp [Token.text, eq_of_literalBody? h]
    · simp [Token.text]
  · split
    · rename_i hc
      subst hc
      split
      · simp [Token.text, List.takeWhile_append_dropWhile]
      · split
        · rename_i h
          simp [Token.text, eq_of_closeComment? h]
        · simp [Token.text]
      · simp [Token.text]
    · simp [Token.text]

theorem Token.text_ne_nil (t : Token) : t.text ≠ [] := by cases t <;> simp [Token.text]

theorem length_next_lt (c : Char) (r : List Char) : (next c r).2.length < (c :: r).length := by
  have h := congrArg List.length (text_next c r)
  have := List.length_pos_iff.2 (Token.text_ne_nil (next c r).1)
  rw [List.length_append] at h
  omega

/-- The tokens of a source text. -/
def scan (cs : List Char) : List Token :=
  match cs with
  | [] => []
  | c :: r => (next c r).1 :: scan (next c r).2
termination_by cs.length
decreasing_by exact length_next_lt c r

@[simp] theorem scan_nil : scan [] = [] := by rw [scan]

theorem scan_cons (c : Char) (r : List Char) :
    scan (c :: r) = (next c r).1 :: scan (next c r).2 := by rw [scan]

/-- Scanning loses nothing. -/
theorem text_scan (cs : List Char) : (scan cs).flatMap Token.text = cs := by
  fun_induction scan cs with
  | case1 => rfl
  | case2 c r ih => rw [List.flatMap_cons, ih, text_next]

/-- The tokens of a text with the byte offset at which each starts, the first at `n`. -/
def placed (n : Nat) : List Token → List (Nat × Token)
  | [] => []
  | t :: ts => (n, t) :: placed (n + Text.size t.text) ts

end Source
end DexQuery
