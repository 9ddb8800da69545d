import DexQuery.Proofs.Source.Bounds
import DexQuery.Proofs.Source.Rendering

/-!
# A member scanned by itself

Scanning goes on by what stands at the front, and for a token that has an end nothing is looked at
behind that, one character apart. So the first tokens of a text are the tokens of their own text, if
each of them has an end (`Source.scan_of_prefix`), which those of a member have. What is found in a
member by itself is therefore what is found there in its unit (`Source.literals_of_member`).
-/

namespace DexQuery
namespace Source

open Text

/-! ## Tokens that have an end -/

/-- What stands behind a literal does not change it. -/
theorem literalBody?_behind {q : Char} (hq : IsQuote q) {cs body rest : List Char}
    (h : literalBody? q cs = some (body, rest)) (ds : List Char) :
    literalBody? q (body ++ q :: ds) = some (body, ds) := by
  have hempty : literalBody? q (q :: ds) = some ([], ds) := by
    cases ds with
    | nil => rw [literalBody?, if_pos rfl]
    | cons d r => rw [literalBody?, if_neg hq.ne_backslash, if_pos rfl]
  fun_induction literalBody? q cs generalizing body with
  | case1 | case3 | case6 => cases h
  | case2 | case5 =>
    cases h
    exact hempty
  | case4 d r ih =>
    obtain ⟨p, hp, heq⟩ := Option.map_eq_some_iff.1 h
    obtain ⟨rfl, rfl⟩ := Prod.mk.inj heq
    rw [List.cons_append, List.cons_append, literalBody?, if_pos rfl, ih hp, Option.map_some]
  | case7 c d r hescape hquote hnewline ih =>
    obtain ⟨p, hp, heq⟩ := Option.map_eq_some_iff.1 h
    obtain ⟨rfl, rfl⟩ := Prod.mk.inj heq
    rw [List.cons_append, literalBody?_cons (by simp) hescape hquote hnewline, ih hp,
      Option.map_some]

/-- No comment is closed before its end. -/
theorem not_infix_of_closeComment? {cs body rest : List Char}
    (h : closeComment? cs = some (body, rest)) : ¬ ['*', '/'] <:+: body := by
  fun_induction closeComment? cs generalizing body with
  | case1 r =>
    cases h
    simp
  | case2 => cases h
  | case3 c r hclose ih =>
    obtain ⟨p, hp, heq⟩ := Option.map_eq_some_iff.1 h
    obtain ⟨rfl, rfl⟩ := Prod.mk.inj heq
    rw [List.infix_cons_iff, not_or]
    refine ⟨?_, ih hp⟩
    rintro ⟨tail, htail⟩
    obtain ⟨rfl, hbody⟩ := List.cons.inj htail
    refine hclose (tail ++ '*' :: '/' :: p.2) rfl ?_
    rw [eq_of_closeComment? hp, ← hbody]
    rfl

/-- The characters of a line comment, with the end of the text or its newline behind them. -/
theorem takeWhile_behind {r ds : List Char} (h : ds <+: r.dropWhile (· ≠ '\n')) :
    (r.takeWhile (· ≠ '\n') ++ ds).takeWhile (· ≠ '\n') = r.takeWhile (· ≠ '\n') ∧
      (r.takeWhile (· ≠ '\n') ++ ds).dropWhile (· ≠ '\n') = ds := by
  have hall : ∀ c ∈ r.takeWhile (· ≠ '\n'), decide (c ≠ '\n') = true :=
    List.all_eq_true.1 List.all_takeWhile
  rw [List.takeWhile_append_of_pos hall, List.dropWhile_append_of_pos hall]
  cases ds with
  | nil => exact ⟨List.append_nil _, rfl⟩
  | cons d ds =>
    obtain ⟨tail, htail⟩ := h
    have hd := List.head?_dropWhile_not (· ≠ '\n') r
    rw [← htail] at hd
    obtain rfl : d = '\n' := by simpa using hd
    simp

/-- **A token that has an end is told from its own text**, and from what begins like the text behind
it. -/
theorem next_of_prefix {c : Char} {r ds x : List Char} (hwhole : (next c r).1.IsWhole)
    (hds : ds <+: (next c r).2) (hx : (next c r).1.text ++ ds = c :: x) :
    next c x = ((next c r).1, ds) := by
  have hfront := front_next c r
  generalize next c r = front at hwhole hds hx hfront ⊢
  cases hfront with
  | literal hq h =>
    obtain rfl : x = _ ++ c :: ds := by simpa [Token.text] using hx.symm
    exact next_literal hq (literalBody?_behind hq h ds)
  | stray => exact absurd rfl (hwhole.1 _)
  | lineComment r =>
    obtain rfl : x = '/' :: (r.takeWhile (· ≠ '\n') ++ ds) := by simpa [Token.text] using hx.symm
    rw [next_lineComment, (takeWhile_behind hds).1, (takeWhile_behind hds).2]
  | @blockComment r body rest h =>
    obtain rfl : x = '*' :: (body ++ '*' :: '/' :: ds) := by simpa [Token.text] using hx.symm
    exact next_blockComment (closeComment?_append (not_infix_of_closeComment? h) ds)
  | openComment => exact absurd rfl (hwhole.2 _)
  | plain hq hcomment =>
    obtain rfl : x = ds := by simpa [Token.text] using hx.symm
    refine next_plain hq fun hopens => hcomment ⟨hopens.1, ?_⟩
    cases x with
    | nil => simpa using hopens.2
    | cons d x =>
      obtain ⟨tail, rfl⟩ := hds
      exact hopens.2

/-- **The first tokens of a text are those of their own text**, if each of them has an end. -/
theorem scan_of_prefix {cs : List Char} {ts us : List Token} (h : scan cs = ts ++ us)
    (hwhole : ∀ t ∈ ts, t.IsWhole) : scan (ts.flatMap Token.text) = ts := by
  induction ts generalizing cs with
  | nil => exact scan_nil
  | cons t ts ih =>
    obtain ⟨ht, hts⟩ := List.forall_mem_cons.1 hwhole
    cases cs with
    | nil =>
      rw [scan_nil] at h
      cases h
    | cons c r =>
      rw [scan_cons] at h
      obtain ⟨rfl, hrest⟩ := List.cons.inj h
      have hprefix : ts.flatMap Token.text <+: (next c r).2 := by
        refine ⟨us.flatMap Token.text, ?_⟩
        rw [← text_scan (next c r).2, hrest]
        exact List.flatMap_append.symm
      obtain ⟨d, x, htext⟩ := List.exists_cons_of_ne_nil (next c r).1.text_ne_nil
      obtain rfl : d = c := by
        have := text_next c r
        rw [htext] at this
        exact (List.cons.inj this).1
      have hx : (next d r).1.text ++ ts.flatMap Token.text = d :: (x ++ ts.flatMap Token.text) := by
        rw [htext, List.cons_append]
      rw [List.flatMap_cons, hx, scan_cons, next_of_prefix ht hprefix hx, ih hrest hts]

/-! ## String literals -/

/-- The literal in a text with `n` more bytes in front. -/
def Literal.shift (n : Nat) (l : Literal) : Literal := ⟨n + l.offset, l.value⟩

/-- The string literals among tokens that begin at byte `n`. -/
def literalsAt (n : Nat) (ts : List Token) : List Literal :=
  (placed n ts).filterMap Literal.ofToken?

theorem literalsAt_append (n : Nat) (ts us : List Token) : literalsAt n (ts ++ us) =
    literalsAt n ts ++ literalsAt (n + size (ts.flatMap Token.text)) us := by
  rw [literalsAt, placed_append, List.filterMap_append]
  rfl

theorem Literal.ofToken?_add (n k : Nat) (t : Token) :
    Literal.ofToken? (n + k, t) = (Literal.ofToken? (k, t)).map (Literal.shift n) := by
  unfold Literal.ofToken?
  split <;> simp_all [Literal.shift]

theorem literalsAt_add (n k : Nat) (ts : List Token) :
    literalsAt (n + k) ts = (literalsAt k ts).map (Literal.shift n) := by
  induction ts generalizing k with
  | nil => rfl
  | cons t ts ih =>
    have hrest := ih (k + size t.text)
    rw [literalsAt, ← Nat.add_assoc] at hrest
    rw [literalsAt, literalsAt, placed, placed, filterMap_cons_toList, filterMap_cons_toList,
      Literal.ofToken?_add, hrest, List.map_append]
    congr 1
    exact Option.toList_map ..

/-- A literal among the tokens lies between the beginning of the first and the end of the last. -/
theorem bounds_of_mem_literalsAt {n : Nat} {ts : List Token} {l : Literal}
    (h : l ∈ literalsAt n ts) : n ≤ l.offset ∧ l.offset < n + size (ts.flatMap Token.text) := by
  obtain ⟨p, hp, hl⟩ := List.mem_filterMap.1 h
  obtain ⟨body, rfl, -⟩ := Literal.ofToken?_eq_some_iff.1 hl
  have hbounds := bounds_of_mem_placed hp
  rw [size_literal (.inl rfl)] at hbounds
  omega

/-- Cut out by their offsets, the literals are those among the tokens in between. -/
theorem filter_literalsAt (front body rest : List Token) :
    (literalsAt 0 (front ++ (body ++ rest))).filter (fun l =>
        size (front.flatMap Token.text) ≤ l.offset ∧
          l.offset < size (front.flatMap Token.text) + size (body.flatMap Token.text)) =
      (literalsAt 0 body).map (Literal.shift (size (front.flatMap Token.text))) := by
  have hbody := literalsAt_add (size (front.flatMap Token.text)) 0 body
  rw [Nat.add_zero] at hbody
  rw [literalsAt_append, literalsAt_append, Nat.zero_add, ← hbody, List.filter_append,
    List.filter_append, List.filter_eq_nil_iff.2, List.filter_eq_self.2, List.filter_eq_nil_iff.2,
    List.nil_append, List.append_nil]
  all_goals
    intro l hl
    have := bounds_of_mem_literalsAt hl
    rw [decide_eq_true_iff]
    omega

/-- A literal that begins in a member ends in it, before its last character. -/
theorem exists_spans_of_member {text : String} {front body rest : List Token}
    (hscan : scan text.toList = front ++ (body ++ rest)) {depth : Nat} {ts : List Token}
    (hbody : body? depth ts = some body) {l : Literal} (hl : l ∈ literals text)
    (hstop : l.offset < size (front.flatMap Token.text) + size (body.flatMap Token.text)) :
    ∃ stop, l.Spans text stop ∧
      stop < size (front.flatMap Token.text) + size (body.flatMap Token.text) := by
  obtain ⟨quoted, ht, hvalue⟩ := mem_literals_iff.1 hl
  have hspans := spans_of_mem_placed ht
  rw [← hvalue] at hspans
  refine ⟨_, hspans, ?_⟩
  obtain ⟨inner, c, rfl, -⟩ := exists_last_of_body? hbody
  have hc : 0 < size (Token.plain c).text := Nat.add_pos_left c.utf8Size_pos _
  have hlast : front ++ (inner ++ [.plain c] ++ rest) = (front ++ inner) ++ .plain c :: rest := by
    simp
  rw [List.flatMap_append, size_append, List.flatMap_singleton] at hstop ⊢
  rw [hscan, hlast, placed_append, placed, Nat.zero_add, List.mem_append, List.mem_cons] at ht
  -- It stands before the last character of the member: it is none, and it does not begin behind it.
  rcases ht with ht | ht | ht
  · have := (bounds_of_mem_placed ht).2
    rw [List.flatMap_append, size_append] at this
    omega
  · cases (Prod.mk.inj ht).2
  · have := (bounds_of_mem_placed ht).1
    rw [List.flatMap_append, size_append] at this
    omega

/-- **A member shows by itself what its unit shows there.** If its definition begins where the
search for literals in the unit comes by, the literals of the text from there to the end of the
member are those of the unit in between, each of which ends before the member does; and the search
comes by the end of the member too. -/
theorem literals_of_member {text : String} {offset : Nat} {m : Member}
    (hvisited : Visited text.toList offset) (hm : member? text offset = some m) :
    ∃ part : String, slice? text.toList offset m.stop = some part.toList ∧
      (literals text).filter (fun l => offset ≤ l.offset ∧ l.offset < m.stop) =
        (literals part).map (Literal.shift offset) ∧
      (∀ l ∈ literals text, offset ≤ l.offset → l.offset < m.stop →
        ∃ stop, l.Spans text stop ∧ stop < m.stop) ∧
      Visited text.toList m.stop := by
  obtain ⟨before, after, body, hcut, hbody, rfl⟩ := member?_eq_some_iff.1 hm
  obtain ⟨front, hscan, rfl⟩ := hvisited.scan hcut
  obtain ⟨htext, rfl⟩ := cut?_eq_some_iff.1 hcut
  obtain ⟨rest, hrest⟩ := prefix_of_body? hbody
  rw [← hrest] at hscan
  have hafter : after = body.flatMap Token.text ++ rest.flatMap Token.text := by
    rw [← text_scan after, ← hrest, List.flatMap_append]
  have hpart : literals (String.ofList (body.flatMap Token.text)) = literalsAt 0 body := by
    rw [literals, String.toList_ofList, scan_of_prefix hrest.symm (isWhole_of_body? hbody)]
    rfl
  refine ⟨String.ofList (body.flatMap Token.text), ?_, ?_, ?_, ?_⟩
  · rw [htext, hafter, String.toList_ofList]
    exact slice?_append ..
  · rw [hpart, literals, hscan]
    exact filter_literalsAt front body rest
  · intro l hl _ hstop
    exact exists_spans_of_member hscan hbody hl hstop
  · rw [← List.append_assoc] at hscan
    have hstop := visited_of_scan hscan
    rwa [List.flatMap_append, size_append] at hstop

/-- A unit with quotes in a comment, in a literal and in a character, before and in a member. -/
def quotedUnit : String :=
  "class A \x7b\n  // \"no\n  String f() \x7b return \"\\\"\x7d\" + '\"' /* \" */; \x7d\n\x7d\n"

theorem visited_quotedUnit : Visited quotedUnit.toList 21 := by
  have hvisited := visited_of_scan (List.take_append_drop 16 (scan quotedUnit.toList)).symm
  have hsize : size (((scan quotedUnit.toList).take 16).flatMap Token.text) = 21 := by
    decide +kernel
  rwa [hsize] at hvisited

theorem literals_of_member_quotedUnit :
    Visited quotedUnit.toList 21 ∧ ∃ m, member? quotedUnit 21 = some m ∧
      (literals quotedUnit).filter (fun l => 21 ≤ l.offset ∧ l.offset < m.stop) =
        [⟨41, "\"\x7d"⟩] ∧
      ∃ part : String, slice? quotedUnit.toList 21 m.stop = some part.toList ∧
        (literals quotedUnit).filter (fun l => 21 ≤ l.offset ∧ l.offset < m.stop) =
          (literals part).map (Literal.shift 21) ∧
        (∀ l ∈ literals quotedUnit, 21 ≤ l.offset → l.offset < m.stop →
          ∃ stop, l.Spans quotedUnit stop ∧ stop < m.stop) ∧
        Visited quotedUnit.toList m.stop := by
  have hm : member? quotedUnit 21 =
      some ⟨19, 63, "  String f() \x7b return \"\\\"\x7d\" + '\"' /* \" */; \x7d"⟩ := by
    decide +kernel
  refine ⟨visited_quotedUnit, _, hm, ?_, literals_of_member visited_quotedUnit hm⟩
  decide +kernel

end Source
end DexQuery
