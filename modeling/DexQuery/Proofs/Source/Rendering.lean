import DexQuery.Proofs.Source.Token
import DexQuery.Proofs.Text.Encoding
import DexQuery.Source.Literal

/-!
# Source text that is put together from pieces

A source text can be written piece by piece: characters, literals with any value, comments. Written
values are escaped, and the escapes are undone when they are read (`Source.unescape_escape`), so a
literal ends where it was made to end, whatever its value (`Source.literalBody?_escape`). The tokens
of the text are then those of its pieces (`Source.scan_render`), and the string literals found in it
are the ones that were put in (`Source.literals_render`).
-/

namespace DexQuery
namespace Source

/-! ## Escaped values -/

/-- The letter that stands for `c` behind a backslash, if `c` is written with one. -/
def escapeLetter? (c : Char) : Option Char :=
  match c with
  | '\n' => some 'n'
  | '\t' => some 't'
  | '\r' => some 'r'
  | '\x00' => some '0'
  | '"' => some '"'
  | '\'' => some '\''
  | '\\' => some '\\'
  | _ => none

/-- A character of a value as it is written in a literal. -/
def escapeChar (c : Char) : List Char :=
  match escapeLetter? c with
  | some d => ['\\', d]
  | none => [c]

/-- A value as it is written in a literal. -/
def escape (v : List Char) : List Char := v.flatMap escapeChar

@[simp] theorem escape_nil : escape [] = [] := rfl

@[simp] theorem escape_cons (c : Char) (v : List Char) :
    escape (c :: v) = escapeChar c ++ escape v := List.flatMap_cons

theorem escaped?_of_escapeLetter? {c d : Char} (h : escapeLetter? c = some d) :
    escaped? d = some c := by
  unfold escapeLetter? at h
  split at h <;> cases h <;> rfl

/-- A character that is written as it is neither ends a literal nor escapes anything in it. -/
theorem ne_of_escapeLetter?_eq_none {c : Char} (h : escapeLetter? c = none) :
    c ≠ '\\' ∧ c ≠ '"' ∧ c ≠ '\'' ∧ c ≠ '\n' := by
  refine ⟨?_, ?_, ?_, ?_⟩ <;>
  · rintro rfl
    cases h

theorem unescape_cons {c : Char} (hc : c ≠ '\\') (r : List Char) :
    unescape (c :: r) = c :: unescape r := by
  cases r with
  | nil => rfl
  | cons d r => rw [unescape, if_neg hc]

/-- **Reading a value undoes writing it.** -/
theorem unescape_escape (v : List Char) : unescape (escape v) = v := by
  induction v with
  | nil => rfl
  | cons c v ih =>
    rw [escape_cons, escapeChar]
    cases h : escapeLetter? c with
    | some d =>
      have hd := escaped?_of_escapeLetter? h
      simp only [List.cons_append, List.nil_append, unescape, if_true, hd, ih]
    | none =>
      have hc := (ne_of_escapeLetter?_eq_none h).1
      simp only [List.cons_append, List.nil_append, unescape_cons hc, ih]

theorem literalBody?_cons {q c : Char} {cs : List Char} (hcs : cs ≠ []) (hescape : c ≠ '\\')
    (hquote : c ≠ q) (hnewline : c ≠ '\n') :
    literalBody? q (c :: cs) = (literalBody? q cs).map fun p => (c :: p.1, p.2) := by
  obtain ⟨d, r, rfl⟩ := List.exists_cons_of_ne_nil hcs
  rw [literalBody?, if_neg hescape, if_neg hquote, if_neg hnewline]

/-- **A literal ends at the quote behind its value**, whatever the value. -/
theorem literalBody?_escape {q : Char} (hq : IsQuote q) (v r : List Char) :
    literalBody? q (escape v ++ q :: r) = some (escape v, r) := by
  induction v with
  | nil =>
    have hne := hq.ne_backslash
    cases r with
    | nil => rw [escape_nil, List.nil_append, literalBody?, if_pos rfl]
    | cons d r => rw [escape_nil, List.nil_append, literalBody?, if_neg hne, if_pos rfl]
  | cons c v ih =>
    rw [escape_cons, escapeChar]
    cases h : escapeLetter? c with
    | some d =>
      simp only [List.cons_append, List.nil_append]
      rw [literalBody?, if_pos rfl, ih, Option.map_some]
    | none =>
      obtain ⟨hescape, hdouble, hsingle, hnewline⟩ := ne_of_escapeLetter?_eq_none h
      have hquote : c ≠ q := by rcases hq with rfl | rfl <;> assumption
      simp only [List.cons_append, List.nil_append]
      rw [literalBody?_cons (by simp) hescape hquote hnewline, ih, Option.map_some]

/-! ## Comments -/

/-- A block comment ends at the first `*/`. -/
theorem closeComment?_append {body : List Char} (h : ¬ ['*', '/'] <:+: body) (r : List Char) :
    closeComment? (body ++ '*' :: '/' :: r) = some (body, r) := by
  induction body with
  | nil => rfl
  | cons c body ih =>
    have hbody : ¬ ['*', '/'] <:+: body := fun hin => h (List.infix_cons hin)
    have hcons : closeComment? (c :: (body ++ '*' :: '/' :: r)) =
        (closeComment? (body ++ '*' :: '/' :: r)).map fun p => (c :: p.1, p.2) := by
      rw [closeComment?]
      -- The first two characters could only close the comment if they did so within the body.
      rintro r' rfl hr'
      cases body with
      | nil => cases hr'
      | cons d body =>
        obtain ⟨rfl, -⟩ := List.cons.inj hr'
        exact h ⟨[], body, rfl⟩
    rw [List.cons_append, hcons, ih hbody, Option.map_some]

theorem takeWhile_append_newline {body : List Char} (h : '\n' ∉ body) (r : List Char) :
    (body ++ '\n' :: r).takeWhile (· ≠ '\n') = body ∧
      (body ++ '\n' :: r).dropWhile (· ≠ '\n') = '\n' :: r := by
  have hall : ∀ c ∈ body, decide (c ≠ '\n') = true := by
    intro c hc
    rw [decide_eq_true_iff]
    rintro rfl
    exact h hc
  rw [List.takeWhile_append_of_pos hall, List.dropWhile_append_of_pos hall]
  simp

/-! ## Pieces -/

/-- A piece of source text. -/
inductive Piece where
  | plain (c : Char) (hstring : c ≠ '"') (hcharacter : c ≠ '\'') (hcomment : c ≠ '/')
  | string (value : String)
  | character (value : String)
  | lineComment (body : List Char) (hline : '\n' ∉ body)
  | blockComment (body : List Char) (hopen : ¬ ['*', '/'] <:+: body)

namespace Piece

/-- A piece as it is written. The newline that ends a line comment belongs to it. -/
def text : Piece → List Char
  | plain c .. => [c]
  | string value => '"' :: escape value.toList ++ ['"']
  | character value => '\'' :: escape value.toList ++ ['\'']
  | lineComment body _ => '/' :: '/' :: body ++ ['\n']
  | blockComment body _ => '/' :: '*' :: body ++ ['*', '/']

/-- The tokens of a piece. -/
def tokens : Piece → List Token
  | plain c .. => [.plain c]
  | string value => [.literal '"' (escape value.toList)]
  | character value => [.literal '\'' (escape value.toList)]
  | lineComment body _ => [.lineComment body, .plain '\n']
  | blockComment body _ => [.blockComment body]

theorem flatMap_tokens (p : Piece) : p.tokens.flatMap Token.text = p.text := by
  cases p <;> simp [tokens, text, Token.text]

/-- What follows a piece has no effect on its tokens. -/
theorem scan_text_append (p : Piece) (r : List Char) :
    scan (p.text ++ r) = p.tokens ++ scan r := by
  cases p with
  | plain c hstring hcharacter hcomment =>
    have hnext : next c r = (.plain c, r) :=
      next_plain (not_or.2 ⟨hstring, hcharacter⟩) fun h => hcomment h.1
    simp [text, tokens, scan_cons, hnext]
  | string value =>
    have hnext := next_literal (.inl rfl) (literalBody?_escape (.inl rfl) value.toList r)
    simp [text, tokens, scan_cons, hnext]
  | character value =>
    have hnext := next_literal (.inr rfl) (literalBody?_escape (.inr rfl) value.toList r)
    simp [text, tokens, scan_cons, hnext]
  | lineComment body hline =>
    obtain ⟨htake, hdrop⟩ := takeWhile_append_newline hline r
    have hcomment := next_lineComment (body ++ '\n' :: r)
    have hnewline : next '\n' r = (.plain '\n', r) := rfl
    rw [htake, hdrop] at hcomment
    simp [text, tokens, scan_cons, hcomment, hnewline]
  | blockComment body hopen =>
    have hnext := next_blockComment (closeComment?_append hopen r)
    simp [text, tokens, scan_cons, hnext]

/-- The string literal that a piece is, if it is one that begins at byte `n`. -/
def literal? (n : Nat) : Piece → Option Literal
  | string value => some ⟨n, value⟩
  | _ => none

end Piece

/-- The pieces written one behind the other. -/
def render (ps : List Piece) : List Char := ps.flatMap Piece.text

theorem scan_render (ps : List Piece) : scan (render ps) = ps.flatMap Piece.tokens := by
  induction ps with
  | nil => exact scan_nil
  | cons p ps ih =>
    have htext : render (p :: ps) = p.text ++ render ps := List.flatMap_cons
    rw [htext, p.scan_text_append, ih, List.flatMap_cons]

/-! ## The literals of a text -/

/-- The string literals among pieces of which the first begins at byte `n`. -/
def stringsFrom (n : Nat) : List Piece → List Literal
  | [] => []
  | p :: ps => (p.literal? n).toList ++ stringsFrom (n + (String.ofList p.text).utf8ByteSize) ps

theorem filterMap_placed_tokens (n : Nat) (p : Piece) :
    (placed n p.tokens).filterMap Literal.ofToken? = (p.literal? n).toList := by
  cases p with
  | string value =>
    simp [Piece.tokens, Piece.literal?, placed, Literal.ofToken?, unescape_escape]
  | _ => simp [Piece.tokens, Piece.literal?, placed, Literal.ofToken?]

/-- **Reading literals undoes writing them.** Of a text that is put together from pieces, the string
literals are found, in their order, where they stand and with the values that they were written
for, and nothing else is taken for one. -/
theorem literals_render (ps : List Piece) :
    literals (String.ofList (render ps)) = stringsFrom 0 ps := by
  have hfrom : ∀ n, (placed n (ps.flatMap Piece.tokens)).filterMap Literal.ofToken? =
      stringsFrom n ps := by
    induction ps with
    | nil => exact fun _ => rfl
    | cons p ps ih =>
      intro n
      rw [List.flatMap_cons, placed_append, List.filterMap_append, filterMap_placed_tokens, ih,
        p.flatMap_tokens, stringsFrom, Text.size_eq_utf8ByteSize]
  rw [literals, String.toList_ofList, scan_render, hfrom]

end Source
end DexQuery
