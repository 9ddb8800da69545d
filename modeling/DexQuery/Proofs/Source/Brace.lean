import DexQuery.Proofs.Source.Masking
import DexQuery.Proofs.Source.Member

/-!
# Members end where braces match in masked text

Where a member ends is told by the masked text alone, in which no brace or semicolon stands in a
literal or comment: at the first semicolon, or at the brace that closes the first one that is opened
(`Source.EndsAt`). Cutting out a member finds this end, unless a literal or comment without end
begins before it, and finds none where there is none (`Source.member?_iff_endsAt`).

Both count open braces. On tokens and on masked bytes the counts go together
(`Source.bodySize?_eq`), and what a count of the bytes stops at is the end that was meant
(`Source.braceEnd?_zero_eq_some_iff`).
-/

namespace DexQuery
namespace Source

open Text

/-! ## The end of a member in masked text -/

/-- The bytes that the end of a member depends on. -/
def IsMark (b : UInt8) : Prop := b = ';'.toUInt8 ∨ b = '{'.toUInt8 ∨ b = '}'.toUInt8

instance (b : UInt8) : Decidable (IsMark b) := inferInstanceAs (Decidable (_ ∨ _ ∨ _))

/-- The bytes close what they open and `d` braces besides, and never more on the way. -/
structure Closes (d : Nat) (bs : List UInt8) : Prop where
  total : bs.count '}'.toUInt8 = d + bs.count '{'.toUInt8
  prefixes : ∀ p, p <+: bs → p.count '}'.toUInt8 ≤ d + p.count '{'.toUInt8

/-- A member that begins with masked text has its last byte at `e`: the first mark is a semicolon,
or it is an open brace and is closed at `e`. -/
inductive EndsAt : List UInt8 → Nat → Prop
  | semicolon {before after : List UInt8} (hbefore : ∀ b ∈ before, ¬ IsMark b) :
      EndsAt (before ++ ';'.toUInt8 :: after) before.length
  | brace {before inside after : List UInt8} (hbefore : ∀ b ∈ before, ¬ IsMark b)
      (hinside : Closes 0 inside) :
      EndsAt (before ++ '{'.toUInt8 :: (inside ++ '}'.toUInt8 :: after))
        (before.length + (inside.length + 1))

/-- The same, with no literal or block comment without end beginning before that. -/
def Masked.EndsAt (m : Masked) (e : Nat) : Prop :=
  Source.EndsAt m.text e ∧ ∀ u, m.unclosed = some u → ¬ u < e

/-- A line begins at `start`, and `offset` is on it. -/
structure LineStart (bs : List UInt8) (offset start : Nat) : Prop where
  le : start ≤ offset
  no_newline : '\n'.toUInt8 ∉ (bs.take offset).drop start
  after_newline : start = 0 ∨ bs[start - 1]? = some '\n'.toUInt8

/-! ## Counting braces -/

/-- The index of the byte that ends a member when `depth` braces are open. -/
def braceEnd? (depth : Nat) : List UInt8 → Option Nat
  | [] => none
  | b :: r =>
    if b = ';'.toUInt8 ∧ depth = 0 then some 0
    else if b = '{'.toUInt8 then (braceEnd? (depth + 1) r).map (· + 1)
    else if b = '}'.toUInt8 then
      if depth = 0 then none
      else if depth = 1 then some 0
      else (braceEnd? (depth - 1) r).map (· + 1)
    else (braceEnd? depth r).map (· + 1)

theorem braceEnd?_open (depth : Nat) (r : List UInt8) :
    braceEnd? depth ('{'.toUInt8 :: r) = (braceEnd? (depth + 1) r).map (· + 1) := by
  rw [braceEnd?, if_neg fun h => absurd h.1 (by decide), if_pos rfl]

theorem braceEnd?_close (depth : Nat) (r : List UInt8) :
    braceEnd? depth ('}'.toUInt8 :: r) =
      if depth = 0 then none else if depth = 1 then some 0
      else (braceEnd? (depth - 1) r).map (· + 1) := by
  rw [braceEnd?, if_neg fun h => absurd h.1 (by decide), if_neg (by decide), if_pos rfl]

theorem braceEnd?_semicolon (r : List UInt8) : braceEnd? 0 (';'.toUInt8 :: r) = some 0 := by
  rw [braceEnd?, if_pos ⟨rfl, rfl⟩]

/-- A semicolon counts only where no brace is open. -/
theorem braceEnd?_other {depth : Nat} {b : UInt8} (hsemicolon : ¬ (b = ';'.toUInt8 ∧ depth = 0))
    (hopen : b ≠ '{'.toUInt8) (hclose : b ≠ '}'.toUInt8) (r : List UInt8) :
    braceEnd? depth (b :: r) = (braceEnd? depth r).map (· + 1) := by
  rw [braceEnd?, if_neg hsemicolon, if_neg hopen, if_neg hclose]

theorem braceEnd?_append {bs : List UInt8} (h : ∀ b ∈ bs, ¬ IsMark b) (depth : Nat)
    (r : List UInt8) : braceEnd? depth (bs ++ r) = (braceEnd? depth r).map (· + bs.length) := by
  induction bs with
  | nil => simp
  | cons b bs ih =>
    obtain ⟨hb, hbs⟩ := List.forall_mem_cons.1 h
    rw [IsMark, not_or, not_or] at hb
    rw [List.cons_append, braceEnd?_other (fun hsemicolon => hb.1 hsemicolon.1) hb.2.1 hb.2.2,
      ih hbs, Option.map_map]
    rfl

/-! ### Braces that close -/

theorem closes_nil_iff {d : Nat} : Closes d [] ↔ d = 0 := by
  constructor
  · intro h
    have := h.total
    simp at this
    omega
  · rintro rfl
    refine ⟨rfl, fun p hp => ?_⟩
    rw [List.prefix_nil.1 hp]
    simp

theorem closes_cons_iff {d : Nat} {b : UInt8} {bs : List UInt8} : Closes d (b :: bs) ↔
    (b :: bs).count '}'.toUInt8 = d + (b :: bs).count '{'.toUInt8 ∧
      ∀ p, p <+: bs → (b :: p).count '}'.toUInt8 ≤ d + (b :: p).count '{'.toUInt8 := by
  constructor
  · intro h
    exact ⟨h.total, fun p hp => h.prefixes _ (List.cons_prefix_cons.2 ⟨rfl, hp⟩)⟩
  · rintro ⟨htotal, hprefixes⟩
    refine ⟨htotal, fun p hp => ?_⟩
    rcases List.prefix_cons_iff.1 hp with rfl | ⟨q, rfl, hq⟩
    · simp
    · exact hprefixes q hq

theorem closes_open_iff {d : Nat} {bs : List UInt8} :
    Closes d ('{'.toUInt8 :: bs) ↔ Closes (d + 1) bs := by
  have hopen : ∀ p : List UInt8, ('{'.toUInt8 :: p).count '{'.toUInt8 =
      p.count '{'.toUInt8 + 1 := fun p => List.count_cons_self
  have hclose : ∀ p : List UInt8, ('{'.toUInt8 :: p).count '}'.toUInt8 = p.count '}'.toUInt8 :=
    fun p => List.count_cons_of_ne (by decide)
  simp only [closes_cons_iff, hopen, hclose]
  constructor
  · rintro ⟨htotal, hprefixes⟩
    exact ⟨by omega, fun p hp => by have := hprefixes p hp; omega⟩
  · rintro ⟨htotal, hprefixes⟩
    exact ⟨by omega, fun p hp => by have := hprefixes p hp; omega⟩

theorem closes_close_iff {d : Nat} {bs : List UInt8} :
    Closes (d + 1) ('}'.toUInt8 :: bs) ↔ Closes d bs := by
  have hopen : ∀ p : List UInt8, ('}'.toUInt8 :: p).count '{'.toUInt8 = p.count '{'.toUInt8 :=
    fun p => List.count_cons_of_ne (by decide)
  have hclose : ∀ p : List UInt8, ('}'.toUInt8 :: p).count '}'.toUInt8 =
      p.count '}'.toUInt8 + 1 := fun p => List.count_cons_self
  simp only [closes_cons_iff, hopen, hclose]
  constructor
  · rintro ⟨htotal, hprefixes⟩
    exact ⟨by omega, fun p hp => by have := hprefixes p hp; omega⟩
  · rintro ⟨htotal, hprefixes⟩
    exact ⟨by omega, fun p hp => by have := hprefixes p hp; omega⟩

/-- Nothing is closed that is not open. -/
theorem not_closes_zero_close (bs : List UInt8) : ¬ Closes 0 ('}'.toUInt8 :: bs) := by
  intro h
  have := h.prefixes ['}'.toUInt8] (List.cons_prefix_cons.2 ⟨rfl, List.nil_prefix⟩)
  revert this
  decide

theorem closes_other_iff {d : Nat} {b : UInt8} {bs : List UInt8} (hopen : b ≠ '{'.toUInt8)
    (hclose : b ≠ '}'.toUInt8) : Closes d (b :: bs) ↔ Closes d bs := by
  simp only [closes_cons_iff, List.count_cons_of_ne hopen, List.count_cons_of_ne hclose]
  exact ⟨fun h => ⟨h.1, h.2⟩, fun h => ⟨h.total, h.prefixes⟩⟩

/-- With braces open, the end is the brace that closes the first of them. -/
theorem braceEnd?_succ_eq_some_iff {d e : Nat} {bs : List UInt8} :
    braceEnd? (d + 1) bs = some e ↔
      ∃ inside after, bs = inside ++ '}'.toUInt8 :: after ∧ e = inside.length ∧
        Closes d inside := by
  induction bs generalizing d e with
  | nil => simp [braceEnd?]
  | cons b bs ih =>
    -- The first byte is the end, or it stands inside.
    have hsplit : (∃ inside after, b :: bs = inside ++ '}'.toUInt8 :: after ∧ e = inside.length ∧
        Closes d inside) ↔ (b = '}'.toUInt8 ∧ e = 0 ∧ d = 0) ∨
          ∃ inside after, bs = inside ++ '}'.toUInt8 :: after ∧ e = inside.length + 1 ∧
            Closes d (b :: inside) := by
      constructor
      · rintro ⟨inside, after, hbs, rfl, hinside⟩
        rcases List.cons_eq_append_iff.1 hbs with ⟨rfl, hcons⟩ | ⟨inside, rfl, rfl⟩
        · exact .inl ⟨(List.cons.inj hcons).1.symm, rfl, closes_nil_iff.1 hinside⟩
        · exact .inr ⟨inside, after, rfl, rfl, hinside⟩
      · rintro (⟨rfl, rfl, rfl⟩ | ⟨inside, after, rfl, rfl, hinside⟩)
        · exact ⟨[], bs, rfl, rfl, closes_nil_iff.2 rfl⟩
        · exact ⟨b :: inside, after, rfl, rfl, hinside⟩
    -- Inside, the count goes on with as many braces as are open behind the byte.
    have hinside : ∀ d', (∀ inside, Closes d (b :: inside) ↔ Closes d' inside) →
        ((braceEnd? (d' + 1) bs).map (· + 1) = some e ↔
          ∃ inside after, bs = inside ++ '}'.toUInt8 :: after ∧ e = inside.length + 1 ∧
            Closes d (b :: inside)) := by
      intro d' hd'
      simp only [Option.map_eq_some_iff, ih, hd']
      constructor
      · rintro ⟨_, ⟨inside, after, hbs, rfl, hcloses⟩, rfl⟩
        exact ⟨inside, after, hbs, rfl, hcloses⟩
      · rintro ⟨inside, after, hbs, rfl, hcloses⟩
        exact ⟨_, ⟨inside, after, hbs, rfl, hcloses⟩, rfl⟩
    rw [hsplit]
    by_cases hopen : b = '{'.toUInt8
    · subst hopen
      rw [braceEnd?_open, hinside (d + 1) fun _ => closes_open_iff,
        or_iff_right fun h => absurd h.1 (by decide)]
    · by_cases hclose : b = '}'.toUInt8
      · subst hclose
        rw [braceEnd?_close, if_neg (Nat.succ_ne_zero d)]
        cases d with
        | zero =>
          rw [if_pos rfl, or_iff_left]
          · simp [eq_comm]
          · rintro ⟨inside, -, -, -, hcloses⟩
            exact not_closes_zero_close inside hcloses
        | succ d =>
          rw [if_neg (by omega), Nat.add_sub_cancel, hinside d fun _ => closes_close_iff,
            or_iff_right fun h => Nat.succ_ne_zero d h.2.2]
      · rw [braceEnd?_other (fun h => absurd h.2 (Nat.succ_ne_zero d)) hopen hclose,
          hinside d fun _ => closes_other_iff hopen hclose]
        simp [hclose]

/-! ### The end -/

theorem EndsAt.cons {b : UInt8} (hb : ¬ IsMark b) {bs : List UInt8} {e : Nat} (h : EndsAt bs e) :
    EndsAt (b :: bs) (e + 1) := by
  cases h with
  | semicolon hbefore => exact .semicolon (List.forall_mem_cons.2 ⟨hb, hbefore⟩)
  | @brace before inside after hbefore hinside =>
    have hend : before.length + (inside.length + 1) + 1 =
        (b :: before).length + (inside.length + 1) := by
      rw [List.length_cons]
      omega
    rw [hend]
    exact .brace (List.forall_mem_cons.2 ⟨hb, hbefore⟩) hinside

/-- **Counting braces finds the end** of a member in masked text. -/
theorem braceEnd?_zero_eq_some_iff {bs : List UInt8} {e : Nat} :
    braceEnd? 0 bs = some e ↔ EndsAt bs e := by
  constructor
  · intro h
    induction bs generalizing e with
    | nil => cases h
    | cons b bs ih =>
      by_cases hsemicolon : b = ';'.toUInt8
      · subst hsemicolon
        rw [braceEnd?_semicolon] at h
        obtain rfl := Option.some.inj h
        have hend : EndsAt ([] ++ ';'.toUInt8 :: bs) 0 := .semicolon (by simp)
        exact hend
      · by_cases hopen : b = '{'.toUInt8
        · subst hopen
          rw [braceEnd?_open] at h
          obtain ⟨e, hend, rfl⟩ := Option.map_eq_some_iff.1 h
          obtain ⟨inside, after, rfl, rfl, hinside⟩ := braceEnd?_succ_eq_some_iff.1 hend
          have hend : EndsAt ([] ++ '{'.toUInt8 :: (inside ++ '}'.toUInt8 :: after))
              (0 + (inside.length + 1)) := .brace (by simp) hinside
          rwa [Nat.zero_add] at hend
        · by_cases hclose : b = '}'.toUInt8
          · subst hclose
            rw [braceEnd?_close, if_pos rfl] at h
            cases h
          · rw [braceEnd?_other (fun h => hsemicolon h.1) hopen hclose] at h
            obtain ⟨e, hend, rfl⟩ := Option.map_eq_some_iff.1 h
            exact (ih hend).cons (not_or.2 ⟨hsemicolon, not_or.2 ⟨hopen, hclose⟩⟩)
  · rintro (hbefore | ⟨hbefore, hinside⟩)
    · rw [braceEnd?_append hbefore, braceEnd?_semicolon, Option.map_some, Nat.zero_add]
    · rw [braceEnd?_append hbefore, braceEnd?_open,
        braceEnd?_succ_eq_some_iff.2 ⟨_, _, rfl, rfl, hinside⟩]
      simp only [Option.map_some, Option.some.injEq]
      omega

/-- The index of the byte that ends a member which begins with masked text. -/
def Masked.end? (depth : Nat) (m : Masked) : Option Nat :=
  (braceEnd? depth m.text).filter fun e => m.unclosed.all fun u => !decide (u < e)

theorem Masked.end?_zero_eq_some_iff {m : Masked} {e : Nat} :
    m.end? 0 = some e ↔ m.EndsAt e := by
  rw [Masked.end?, Option.filter_eq_some_iff, braceEnd?_zero_eq_some_iff, Masked.EndsAt,
    Option.all_eq_true]
  simp

/-! ## The count of tokens -/

/-- What the count does to the bytes in front, it does to the masked text. -/
theorem Masked.end?_prepend {depth depth' : Nat} {bs : List UInt8} {m : Masked}
    (h : braceEnd? depth (bs ++ m.text) = (braceEnd? depth' m.text).map (· + bs.length)) :
    (m.prepend bs).end? depth = (m.end? depth').map (· + bs.length) := by
  rw [Masked.end?, Masked.prepend, Masked.end?, h, Option.filter_map]
  congr 2
  funext e
  cases m.unclosed <;> simp

theorem Masked.end?_prepend_of_none {depth : Nat} {bs : List UInt8} {m : Masked}
    (h : braceEnd? depth (bs ++ m.text) = none) : (m.prepend bs).end? depth = none := by
  rw [Masked.end?, Masked.prepend, h, Option.filter_none]

/-- Nothing begins before the first byte. -/
theorem Masked.end?_prepend_of_zero {depth : Nat} {bs : List UInt8} {m : Masked}
    (h : braceEnd? depth (bs ++ m.text) = some 0) : (m.prepend bs).end? depth = some 0 := by
  rw [Masked.end?, Masked.prepend, h, Option.filter_some, if_pos]
  simp

/-- There is no end behind a literal or comment that has none. -/
theorem Masked.end?_unclosed {depth : Nat} {b : UInt8} (hb : ¬ IsMark b) (r : List UInt8) :
    Masked.end? depth ⟨b :: r, some 0⟩ = none := by
  have hskip : braceEnd? depth ([b] ++ r) = (braceEnd? depth r).map (· + 1) :=
    braceEnd?_append (by simpa using hb) depth r
  rw [Masked.end?, Option.filter_eq_none_iff]
  intro e he
  rw [← List.singleton_append, hskip] at he
  obtain ⟨e, -, rfl⟩ := Option.map_eq_some_iff.1 he
  simp

/-- The size of the text of the tokens that `body?` takes. -/
def bodySize? (depth : Nat) (ts : List Token) : Option Nat :=
  (body? depth ts).map fun body => size (body.flatMap Token.text)

/-- A token that the count goes over is as long as what is put for it. -/
theorem bodySize?_cons {depth depth' : Nat} {t : Token} {ts : List Token} {bs : List UInt8}
    {m : Masked} (hbody : body? depth (t :: ts) = (body? depth' ts).map (t :: ·))
    (hsize : bs.length = size t.text)
    (hend : braceEnd? depth (bs ++ m.text) = (braceEnd? depth' m.text).map (· + bs.length))
    (hrest : bodySize? depth' ts = (m.end? depth').map (· + 1)) :
    bodySize? depth (t :: ts) = ((m.prepend bs).end? depth).map (· + 1) := by
  have hsum : bodySize? depth (t :: ts) = (bodySize? depth' ts).map (size t.text + ·) := by
    simp only [bodySize?, hbody, Option.map_map, Function.comp_def, List.flatMap_cons, size_append]
  rw [hsum, hrest, Masked.end?_prepend hend, hsize]
  simp only [Option.map_map, Function.comp_def]
  congr 1
  funext e
  omega

theorem body?_open (depth : Nat) (ts : List Token) :
    body? depth (.plain '{' :: ts) = (body? (depth + 1) ts).map (.plain '{' :: ·) := by
  simp [body?]

theorem body?_close (d : Nat) (ts : List Token) :
    body? (d + 2) (.plain '}' :: ts) = (body? (d + 1) ts).map (.plain '}' :: ·) := by
  simp [body?]

/-- A character that is no brace leaves the count as it is, and so does a semicolon where a brace is
open. -/
theorem body?_plain {c : Char} {depth : Nat} (hsemicolon : ¬ (c = ';' ∧ depth = 0))
    (hopen : c ≠ '{') (hclose : c ≠ '}') (ts : List Token) :
    body? depth (.plain c :: ts) = (body? depth ts).map (.plain c :: ·) := by
  conv_lhs => unfold body?
  rw [if_neg hsemicolon, if_neg hopen, if_neg hclose]

theorem not_isMark_of_mem_encodeChar {c : Char} (hsemicolon : c ≠ ';') (hopen : c ≠ '{')
    (hclose : c ≠ '}') : ∀ b ∈ String.utf8EncodeChar c, ¬ IsMark b := by
  rintro b hb (rfl | rfl | rfl)
  · exact hsemicolon ((mem_encodeChar_iff (by decide)).1 hb)
  · exact hopen ((mem_encodeChar_iff (by decide)).1 hb)
  · exact hclose ((mem_encodeChar_iff (by decide)).1 hb)

/-- A token that is blanked out changes no count. -/
theorem bodySize?_hidden {depth : Nat} {t : Token} {ts : List Token} {m : Masked}
    (hbody : body? depth (t :: ts) = (body? depth ts).map (t :: ·))
    (hrest : bodySize? depth ts = (m.end? depth).map (· + 1)) :
    bodySize? depth (t :: ts) =
      ((m.prepend (List.replicate (size t.text) ' '.toUInt8)).end? depth).map (· + 1) := by
  have hblank : ∀ b ∈ List.replicate (size t.text) ' '.toUInt8, ¬ IsMark b := by
    intro b hb
    rw [(List.mem_replicate.1 hb).2]
    decide
  exact bodySize?_cons hbody List.length_replicate (braceEnd?_append hblank _ _) hrest

/-- A character of the code counts as its bytes do. -/
theorem bodySize?_plain (c : Char) {ts : List Token} {m : Masked}
    (hrest : ∀ depth, bodySize? depth ts = (m.end? depth).map (· + 1)) (depth : Nat) :
    bodySize? depth (.plain c :: ts) =
      ((m.prepend (String.utf8EncodeChar c)).end? depth).map (· + 1) := by
  have hsize : (String.utf8EncodeChar c).length = size (Token.plain c).text := by
    rw [String.length_utf8EncodeChar, Token.text, size_cons, size_nil, Nat.add_zero]
  by_cases hopen : c = '{'
  · subst hopen
    exact bodySize?_cons (body?_open _ _) hsize (braceEnd?_open _ _) (hrest (depth + 1))
  by_cases hclose : c = '}'
  · subst hclose
    cases depth with
    | zero =>
      rw [Masked.end?_prepend_of_none (braceEnd?_close 0 _)]
      rfl
    | succ d =>
      cases d with
      | zero =>
        rw [Masked.end?_prepend_of_zero (braceEnd?_close 1 _)]
        rfl
      | succ d => exact bodySize?_cons (body?_close _ _) hsize (braceEnd?_close _ _) (hrest (d + 1))
  by_cases hsemicolon : c = ';'
  · subst hsemicolon
    cases depth with
    | zero =>
      rw [Masked.end?_prepend_of_zero (braceEnd?_semicolon _)]
      rfl
    | succ d =>
      refine bodySize?_cons (body?_plain (by simp) hopen hclose _) hsize ?_ (hrest (d + 1))
      exact braceEnd?_other (by simp) (by decide) (by decide) _
  · refine bodySize?_cons (body?_plain (fun h => hsemicolon h.1) hopen hclose _) hsize ?_
      (hrest depth)
    exact braceEnd?_append (not_isMark_of_mem_encodeChar hsemicolon hopen hclose) _ _

/-- **Tokens and masked bytes have one end.** The tokens up to the end of a member are as long as
the masked text up to its end. -/
theorem bodySize?_eq (depth : Nat) (cs : List Char) :
    bodySize? depth (scan cs) = ((mask 0 (encode cs)).end? depth).map (· + 1) := by
  fun_induction scan cs generalizing depth with
  | case1 => rfl
  | case2 c r ih =>
    have hfront := front_next c r
    rw [mask_encode_cons c r]
    generalize next c r = front at hfront ih ⊢
    cases hfront with
    | literal | lineComment | blockComment => exact bodySize?_hidden rfl (ih depth)
    | stray hq _ =>
      have hb : ¬ IsMark c.toUInt8 := by rcases hq with rfl | rfl <;> decide
      rw [hq.isAscii.encode_cons]
      simp only [Token.masked?, Masked.end?_unclosed hb]
      rfl
    | openComment _ =>
      rw [IsAscii.encode_cons (by decide)]
      simp only [Token.masked?, Masked.end?_unclosed (b := '/'.toUInt8) (by decide)]
      rfl
    | plain _ _ => exact bodySize?_plain c ih depth

/-! ## Members -/

/-- Only one line holds an offset. -/
theorem LineStart.unique {bs : List UInt8} {offset start start' : Nat}
    (h : LineStart bs offset start) (h' : LineStart bs offset start') : start = start' := by
  -- Of two starts the later one would have a newline before it on the line of the earlier one.
  have hle : ∀ {s s' : Nat}, LineStart bs offset s → LineStart bs offset s' → s' ≤ s := by
    intro s s' hs hs'
    by_contra hlt
    rcases hs'.after_newline with hzero | hnewline
    · omega
    · have := hs'.le
      refine hs.no_newline (List.mem_iff_getElem?.2 ⟨s' - 1 - s, ?_⟩)
      rw [List.getElem?_drop, List.getElem?_take_of_lt (by omega), ← hnewline]
      congr 1
      omega
  exact Nat.le_antisymm (hle h' h) (hle h h')

/-- The bytes of the part of a line before a definition are those from the line's start. -/
theorem lineStart_lineLead {text : String} {offset : Nat} {before after : List Char}
    (h : cut? offset text.toList = some (before, after)) :
    LineStart (bytes text) offset (offset - size (lineLead before)) := by
  obtain ⟨htext, hoffset⟩ := cut?_eq_some_iff.1 h
  obtain ⟨front, hbefore, hnewline, hfront⟩ := exists_append_lineLead before
  have hsize : offset = size front + size (lineLead before) := by
    rw [← size_append, ← hbefore, hoffset]
  have hstart : offset - size (lineLead before) = size front := by omega
  have hbytes : bytes text = encode front ++ (encode (lineLead before) ++ encode after) := by
    rw [bytes_eq_encode, htext, encode_append]
    conv_lhs => rw [hbefore]
    rw [encode_append, List.append_assoc]
  rw [hstart]
  refine ⟨by omega, ?_, ?_⟩
  · rw [hbytes, ← List.append_assoc, List.take_left' (by simp [hsize]), List.drop_left' (by simp)]
    intro hmem
    obtain ⟨c, hc, hb⟩ := List.mem_flatMap.1 hmem
    obtain rfl := (mem_encodeChar_iff (by decide)).1 hb
    exact hnewline hc
  · rcases hfront with rfl | ⟨lines, rfl⟩
    · exact .inl rfl
    · right
      have hlast : encode (lines ++ ['\n']) = encode lines ++ ['\n'.toUInt8] := by
        rw [encode_append, IsAscii.encode_cons (by decide), encode_nil]
      have hlength : size (lines ++ ['\n']) - 1 = (encode lines).length := by
        rw [size_append, length_encode, size_cons, size_nil, IsAscii.utf8Size (by decide)]
        omega
      rw [hbytes, hlast, hlength, List.append_assoc, List.getElem?_append_right (Nat.le_refl _),
        Nat.sub_self]
      rfl

/-- The text can be cut at the offset if that is between two of its characters. -/
theorem exists_cut?_iff {text : String} {offset : Nat} :
    (∃ before after, cut? offset text.toList = some (before, after)) ↔
      String.Pos.Raw.IsValid text ⟨offset⟩ := by
  rw [String.Pos.Raw.isValid_iff_exists_append]
  constructor
  · rintro ⟨before, after, hcut⟩
    obtain ⟨htext, hoffset⟩ := cut?_eq_some_iff.1 hcut
    refine ⟨String.ofList before, String.ofList after, ?_, ?_⟩
    · rw [← String.toList_inj, htext]
      simp
    · rw [String.Pos.Raw.ext_iff, ← hoffset, size_eq_utf8ByteSize]
      rfl
  · rintro ⟨front, rest, rfl, hoffset⟩
    refine ⟨front.toList, rest.toList, cut?_eq_some_iff.2 ⟨String.toList_append, ?_⟩⟩
    rw [size_eq_utf8ByteSize, String.ofList_toList]
    exact (congrArg String.Pos.Raw.byteIdx hoffset).symm

/-- The tokens of a member are there, and reach to the byte `e`, exactly if that is its end. -/
theorem exists_body?_iff {cs : List Char} {e : Nat} :
    (∃ body, body? 0 (scan cs) = some body ∧ size (body.flatMap Token.text) = e + 1) ↔
      (mask 0 (encode cs)).EndsAt e := by
  have hsize : bodySize? 0 (scan cs) = some (e + 1) ↔ (mask 0 (encode cs)).EndsAt e := by
    rw [bodySize?_eq, ← Masked.end?_zero_eq_some_iff]
    simp
  rw [← hsize, bodySize?, Option.map_eq_some_iff]

/-- The masked text from a byte on. -/
def maskedFrom (text : String) (offset : Nat) : Masked := mask 0 ((bytes text).drop offset)

theorem maskedFrom_of_cut? {text : String} {offset : Nat} {before after : List Char}
    (h : cut? offset text.toList = some (before, after)) :
    maskedFrom text offset = mask 0 (encode after) := by
  obtain ⟨htext, hoffset⟩ := cut?_eq_some_iff.1 h
  rw [maskedFrom, bytes_eq_encode, htext, encode_append, List.drop_left' (by rw [length_encode,
    hoffset])]

theorem lt_utf8ByteSize_of_endsAt {text : String} {offset e : Nat}
    (h : (maskedFrom text offset).EndsAt e) : offset < text.utf8ByteSize := by
  by_contra hle
  have hlength : (bytes text).length ≤ offset := Nat.le_of_not_lt hle
  rw [← Masked.end?_zero_eq_some_iff, maskedFrom, List.drop_of_length_le hlength] at h
  cases h

/-- The range of a member: from the start of the line of its definition to its end. -/
theorem member?_range_iff {text : String} {offset start stop : Nat} :
    (∃ m, member? text offset = some m ∧ m.start = start ∧ m.stop = stop) ↔
      String.Pos.Raw.IsValid text ⟨offset⟩ ∧ LineStart (bytes text) offset start ∧
        ∃ e, (maskedFrom text offset).EndsAt e ∧ stop = offset + e + 1 := by
  rw [← exists_cut?_iff]
  constructor
  · rintro ⟨m, hm, rfl, rfl⟩
    obtain ⟨before, after, body, hcut, hbody, rfl⟩ := member?_eq_some_iff.1 hm
    have hsize := bodySize?_eq 0 after
    rw [bodySize?, hbody, Option.map_some] at hsize
    obtain ⟨e, he, hlength⟩ := Option.map_eq_some_iff.1 hsize.symm
    refine ⟨⟨before, after, hcut⟩, lineStart_lineLead hcut, e, ?_, ?_⟩
    · rw [maskedFrom_of_cut? hcut]
      exact Masked.end?_zero_eq_some_iff.1 he
    · rw [Nat.add_assoc, hlength]
  · rintro ⟨⟨before, after, hcut⟩, hstart, e, he, rfl⟩
    rw [maskedFrom_of_cut? hcut] at he
    obtain ⟨body, hbody, hsize⟩ := exists_body?_iff.2 he
    refine ⟨_, member?_eq_some_iff.2 ⟨before, after, body, hcut, hbody, rfl⟩,
      (lineStart_lineLead hcut).unique hstart, ?_⟩
    change offset + _ = _
    rw [hsize, Nat.add_assoc]

/-- **A member ends where braces match in masked text.** There is a member at an offset if that lies
in the text between two characters, the masked text from there on has an end, and no literal or
block comment without end begins before it; and then the member goes from the start of the line to
that end. -/
theorem member?_iff_endsAt (text : String) (offset : Nat) :
    ((member? text offset).isSome ↔ String.Pos.Raw.IsValid text ⟨offset⟩ ∧
      offset < text.utf8ByteSize ∧ ∃ e, (maskedFrom text offset).EndsAt e) ∧
    ∀ start stop, (∃ m, member? text offset = some m ∧ m.start = start ∧ m.stop = stop) ↔
      String.Pos.Raw.IsValid text ⟨offset⟩ ∧ offset < text.utf8ByteSize ∧
        LineStart (bytes text) offset start ∧
          ∃ e, (maskedFrom text offset).EndsAt e ∧ stop = offset + e + 1 := by
  constructor
  · constructor
    · intro hsome
      obtain ⟨m, hm⟩ := Option.isSome_iff_exists.1 hsome
      obtain ⟨hvalid, -, e, he, -⟩ := member?_range_iff.1 ⟨m, hm, rfl, rfl⟩
      exact ⟨hvalid, lt_utf8ByteSize_of_endsAt he, e, he⟩
    · rintro ⟨hvalid, -, e, he⟩
      obtain ⟨before, after, hcut⟩ := exists_cut?_iff.2 hvalid
      obtain ⟨m, hm, -⟩ := member?_range_iff.2 ⟨hvalid, lineStart_lineLead hcut, e, he, rfl⟩
      rw [hm]
      rfl
  · intro start stop
    rw [member?_range_iff]
    constructor
    · rintro ⟨hvalid, hstart, e, he, hstop⟩
      exact ⟨hvalid, lt_utf8ByteSize_of_endsAt he, hstart, e, he, hstop⟩
    · rintro ⟨hvalid, -, hstart, e, he, hstop⟩
      exact ⟨hvalid, hstart, e, he, hstop⟩

/-- The brace in the literal closes nothing. -/
example : (member? "int f() \x7b g('\x7d'); \x7d\n" 4).map (·.text) =
    some "int f() \x7b g('\x7d'); \x7d" := by decide +kernel

end Source
end DexQuery
