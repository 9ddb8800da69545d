import DexQuery.Proofs.Text.Line
import DexQuery.Source.Disassembly

/-!
# Methods of disassembly text are isolated

The text given for a method is a stretch of lines: it begins with the first line that heads a method
of its name, and it ends with the first line behind that which is a footer, or with the text
(`Disassembly.blockLines?_eq_some_iff`). There is none only if no line heads a method of that name
(`Disassembly.method?_eq_none_iff`).

In a text in which methods do not run into each other (`Disassembly.Part`) these lines are those of
one method and no others, whatever its own lines mention. `Disassembly.method?_isolates` says both.
-/

namespace DexQuery
namespace Disassembly

/-! ## Kinds of lines -/

/-- The line is the first of a method. -/
def IsHeader (line : List Char) : Prop := opening <+: Text.trim line

/-- The line is the last of a method. -/
def IsFooter (line : List Char) : Prop := Text.trim line = closing

/-- The line is the first of a method whose name and types are `short`. -/
def Heads (short : String) (line : List Char) : Prop :=
  IsHeader line ∧ (Text.words line).getLast? = some short.toList

instance (line : List Char) : Decidable (IsHeader line) := inferInstanceAs (Decidable (_ <+: _))

instance (line : List Char) : Decidable (IsFooter line) := inferInstanceAs (Decidable (_ = _))

instance (short : String) (line : List Char) : Decidable (Heads short line) :=
  inferInstanceAs (Decidable (_ ∧ _))

theorem opens_iff {short : String} {line : List Char} :
    opens short.toList line = true ↔ Heads short line := by
  rw [opens, Bool.and_eq_true, List.isPrefixOf_iff_prefix, beq_iff_eq]
  rfl

theorem closes_iff {line : List Char} : closes line = true ↔ IsFooter line := beq_iff_eq

/-- No line is both first and last. -/
theorem IsFooter.not_isHeader {line : List Char} (h : IsFooter line) : ¬ IsHeader line := by
  rw [IsHeader, show Text.trim line = closing from h]
  decide

/-! ## From a header to a footer -/

theorem throughClosing_append {body after : List (List Char)} {footer : List Char}
    (hbody : ∀ l ∈ body, ¬ IsFooter l) (hfooter : IsFooter footer) :
    throughClosing (body ++ footer :: after) = body ++ [footer] := by
  induction body with
  | nil => simp only [List.nil_append, throughClosing, if_pos (closes_iff.2 hfooter)]
  | cons l body ih =>
    obtain ⟨hl, hbody⟩ := List.forall_mem_cons.1 hbody
    simp only [List.cons_append, throughClosing, if_neg (mt closes_iff.1 hl), ih hbody]

theorem throughClosing_of_forall {body : List (List Char)} (hbody : ∀ l ∈ body, ¬ IsFooter l) :
    throughClosing body = body := by
  induction body with
  | nil => rfl
  | cons l body ih =>
    obtain ⟨hl, hbody⟩ := List.forall_mem_cons.1 hbody
    simp only [throughClosing, if_neg (mt closes_iff.1 hl), ih hbody]

/-- A list of which some element has a property goes up to the first that has it. -/
theorem exists_first {α : Type} (p : α → Prop) [DecidablePred p] (xs : List α) :
    (∀ x ∈ xs, ¬ p x) ∨
      ∃ before x after, xs = before ++ x :: after ∧ (∀ y ∈ before, ¬ p y) ∧ p x := by
  by_cases h : ∀ x ∈ xs, ¬ p x
  · exact .inl h
  · have hsome : (xs.find? fun x => decide (p x)).isSome := by
      simpa [List.find?_isSome] using h
    obtain ⟨x, hx⟩ := Option.isSome_iff_exists.1 hsome
    obtain ⟨hp, before, after, hxs, hbefore⟩ := List.find?_eq_some_iff_append.1 hx
    exact .inr ⟨before, x, after, hxs, by simpa using hbefore, by simpa using hp⟩

/-- The lines from a header on: up to the first footer, or all of them if there is none. `after` is
what is left behind them. -/
inductive Spans (short : String) : List (List Char) → List (List Char) → Prop
  | closed {header footer : List Char} {body after : List (List Char)}
      (hheader : Heads short header) (hbody : ∀ l ∈ body, ¬ IsFooter l)
      (hfooter : IsFooter footer) :
      Spans short (header :: (body ++ [footer])) after
  | cut {header : List Char} {body : List (List Char)} (hheader : Heads short header)
      (hbody : ∀ l ∈ body, ¬ IsFooter l) : Spans short (header :: body) []

theorem blockLines?_append {short : String} {before : List (List Char)}
    (hbefore : ∀ l ∈ before, ¬ Heads short l) (ls : List (List Char)) :
    blockLines? short.toList (before ++ ls) = blockLines? short.toList ls := by
  have hall : ∀ l ∈ before, (!opens short.toList l) = true := by
    intro l hl
    rw [Bool.not_eq_true', ← Bool.not_eq_true, opens_iff]
    exact hbefore l hl
  rw [blockLines?, List.dropWhile_append_of_pos hall, ← blockLines?]

theorem blockLines?_of_forall {short : String} {ls : List (List Char)}
    (h : ∀ l ∈ ls, ¬ Heads short l) : blockLines? short.toList ls = none := by
  have hnone := blockLines?_append h []
  rwa [List.append_nil] at hnone

theorem Spans.blockLines? {short : String} {block after : List (List Char)}
    (h : Spans short block after) :
    Disassembly.blockLines? short.toList (block ++ after) = some block := by
  cases h with
  | @closed header footer body after hheader hbody hfooter =>
    have hopens := opens_iff.2 hheader
    have hrest : throughClosing (body ++ footer :: after) = body ++ [footer] :=
      throughClosing_append hbody hfooter
    simp [Disassembly.blockLines?, hopens, hrest]
  | @cut header body hheader hbody =>
    have hopens := opens_iff.2 hheader
    simp [Disassembly.blockLines?, hopens, throughClosing_of_forall hbody]

/-- From a header on there is a stretch of lines. -/
theorem exists_spans {short : String} {header : List Char} (hheader : Heads short header)
    (ls : List (List Char)) :
    ∃ block after, header :: ls = block ++ after ∧ Spans short block after := by
  rcases exists_first IsFooter ls with hbody | ⟨body, footer, after, rfl, hbody, hfooter⟩
  · exact ⟨header :: ls, [], (List.append_nil _).symm, .cut hheader hbody⟩
  · exact ⟨header :: (body ++ [footer]), after, by simp, .closed hheader hbody hfooter⟩

/-- **What is given for a method**: the stretch from the first line that heads it. -/
theorem blockLines?_eq_some_iff {short : String} {ls block : List (List Char)} :
    blockLines? short.toList ls = some block ↔ ∃ before after,
      ls = before ++ (block ++ after) ∧ (∀ l ∈ before, ¬ Heads short l) ∧
        Spans short block after := by
  constructor
  · intro h
    rcases exists_first (Heads short) ls with hnone | ⟨before, header, rest, rfl, hbefore, hheader⟩
    · rw [blockLines?_of_forall hnone] at h
      cases h
    · obtain ⟨block', after, hsplit, hspans⟩ := exists_spans hheader rest
      rw [blockLines?_append hbefore, hsplit, hspans.blockLines?] at h
      obtain rfl := Option.some.inj h
      exact ⟨before, after, by rw [hsplit], hbefore, hspans⟩
  · rintro ⟨before, after, rfl, hbefore, hspans⟩
    rw [blockLines?_append hbefore, hspans.blockLines?]

theorem blockLines?_eq_none_iff {short : String} {ls : List (List Char)} :
    blockLines? short.toList ls = none ↔ ∀ l ∈ ls, ¬ Heads short l := by
  refine ⟨fun h => ?_, blockLines?_of_forall⟩
  rcases exists_first (Heads short) ls with hnone | ⟨before, header, rest, rfl, hbefore, hheader⟩
  · exact hnone
  · obtain ⟨block, after, hsplit, hspans⟩ := exists_spans hheader rest
    rw [blockLines?_append hbefore, hsplit, hspans.blockLines?] at h
    cases h

theorem method?_eq (unit short : String) : method? unit short =
    (blockLines? short.toList (Text.lines unit.toList)).map fun ls =>
      String.ofList (['\n'].intercalate ls) := by
  simp only [method?, Text.joinWith_eq_intercalate]

/-- There is a text for a method exactly if a line heads it. -/
theorem method?_eq_none_iff {unit short : String} :
    method? unit short = none ↔ ∀ l ∈ Text.lines unit.toList, ¬ Heads short l := by
  rw [method?_eq, Option.map_eq_none_iff, blockLines?_eq_none_iff]

/-! ## Texts in which methods are apart -/

/-- What a line holds: characters without line ends. -/
structure Line where
  chars : List Char
  no_newline : '\n' ∉ chars
  no_return : '\r' ∉ chars

/-- A line that neither opens a method nor closes one. -/
structure InnerLine extends Line where
  not_header : ¬ IsHeader chars
  not_footer : ¬ IsFooter chars

/-- A method from its header to its footer. -/
structure Block where
  header : Line
  body : List InnerLine
  footer : Line
  header_opens : IsHeader header.chars
  footer_closes : IsFooter footer.chars

/-- A part of a disassembly: a line outside of methods, or a method. -/
inductive Part where
  | line (l : InnerLine)
  | method (b : Block)

/-- The lines of a method. -/
def Block.lines (b : Block) : List Line := b.header :: (b.body.map (·.toLine) ++ [b.footer])

/-- The lines of a part. -/
def Part.lines : Part → List Line
  | line l => [l.toLine]
  | method b => b.lines

/-- The method that a part is. -/
def Part.block? : Part → Option Block
  | line _ => none
  | method b => some b

/-- The text of a method: its lines, with newlines between them. -/
def Block.text (b : Block) : String := String.ofList (['\n'].intercalate (b.lines.map Line.chars))

/-- The disassembly that consists of the parts. Each line ends in a newline. -/
def unitText (parts : List Part) : String :=
  String.ofList ((parts.flatMap Part.lines).flatMap fun l => l.chars ++ ['\n'])

theorem lines_unitText (parts : List Part) :
    Text.lines (unitText parts).toList = (parts.flatMap Part.lines).map Line.chars := by
  have hnewline : ∀ l ∈ (parts.flatMap Part.lines).map Line.chars, '\n' ∉ l := by
    intro l hl
    obtain ⟨line, -, rfl⟩ := List.mem_map.1 hl
    exact line.no_newline
  have hreturn : ∀ l ∈ (parts.flatMap Part.lines).map Line.chars, '\r' ∉ l := by
    intro l hl
    obtain ⟨line, -, rfl⟩ := List.mem_map.1 hl
    exact line.no_return
  have hlines := Text.linesOf_flatMap_newline hnewline hreturn
  rw [List.flatMap_map] at hlines
  rw [unitText, String.toList_ofList, Text.lines_eq_of_linesOf hlines]

/-- Of the lines of a method none but the first heads a method. -/
theorem Block.not_heads {short : String} {b : Block} (h : ¬ Heads short b.header.chars) :
    ∀ l ∈ b.lines.map Line.chars, ¬ Heads short l := by
  intro l hl hheads
  simp only [Block.lines, List.map_cons, List.map_append, List.map_map, List.mem_cons,
    List.mem_append, List.mem_map, List.map_nil, List.not_mem_nil, or_false] at hl
  rcases hl with rfl | ⟨inner, -, rfl⟩ | rfl
  · exact h hheads
  · exact inner.not_header hheads.1
  · exact b.footer_closes.not_isHeader hheads.1

theorem Block.spans {short : String} {b : Block} (h : Heads short b.header.chars)
    (after : List (List Char)) : Spans short (b.lines.map Line.chars) after := by
  have hbody : ∀ l ∈ b.body.map (fun l => l.chars), ¬ IsFooter l := by
    intro l hl
    obtain ⟨inner, -, rfl⟩ := List.mem_map.1 hl
    exact inner.not_footer
  have hspans : Spans short _ after := .closed h hbody b.footer_closes
  simpa [Block.lines, Function.comp_def] using hspans

/-- Of parts, the first method of the name is found. -/
theorem blockLines?_parts (short : String) (parts : List Part) :
    blockLines? short.toList ((parts.flatMap Part.lines).map Line.chars) =
      ((parts.filterMap Part.block?).find? fun b => decide (Heads short b.header.chars)).map
        fun b => b.lines.map Line.chars := by
  induction parts with
  | nil => rfl
  | cons part parts ih =>
    rw [List.flatMap_cons, List.map_append]
    cases part with
    | line l =>
      have hl : ∀ x ∈ (Part.line l).lines.map Line.chars, ¬ Heads short x := by
        intro x hx hheads
        obtain rfl : x = l.chars := by simpa [Part.lines] using hx
        exact l.not_header hheads.1
      rw [blockLines?_append hl, ih, List.filterMap_cons_none rfl]
    | method b =>
      have hblock : (Part.method b).block? = some b := rfl
      rw [List.filterMap_cons_some hblock, Part.lines]
      by_cases h : Heads short b.header.chars
      · rw [(b.spans h _).blockLines?, List.find?_cons_of_pos (by simpa using h), Option.map_some]
      · rw [blockLines?_append (b.not_heads h), ih, List.find?_cons_of_neg (by simpa using h)]

/-- **A method is isolated.** In a disassembly made of lines and methods, what is given for a name
is the text of the first method that has it, and nothing if there is none. In any text it is the
stretch of lines, joined by newlines, from the first that heads a method of the name, and nothing if
no line does. -/
theorem method?_isolates (short : String) :
    (∀ parts, method? (unitText parts) short =
      ((parts.filterMap Part.block?).find? fun b => decide (Heads short b.header.chars)).map
        Block.text) ∧
    ∀ unit, ∃ ls, Text.LinesOf unit.toList ls ∧
      (method? unit short = none ↔ ∀ l ∈ ls, ¬ Heads short l) ∧
      ∀ out, method? unit short = some out ↔ ∃ before block after,
        ls = before ++ (block ++ after) ∧ (∀ l ∈ before, ¬ Heads short l) ∧
          Spans short block after ∧ out = String.ofList (['\n'].intercalate block) := by
  constructor
  · intro parts
    rw [method?_eq, lines_unitText, blockLines?_parts, Option.map_map]
    rfl
  · intro unit
    refine ⟨Text.lines unit.toList, Text.linesOf_lines _, method?_eq_none_iff, fun out => ?_⟩
    rw [method?_eq, Option.map_eq_some_iff]
    constructor
    · rintro ⟨block, hblock, rfl⟩
      obtain ⟨before, after, hls, hbefore, hspans⟩ := blockLines?_eq_some_iff.1 hblock
      exact ⟨before, block, after, hls, hbefore, hspans, rfl⟩
    · rintro ⟨before, block, after, hls, hbefore, hspans, rfl⟩
      exact ⟨block, blockLines?_eq_some_iff.2 ⟨before, after, hls, hbefore, hspans⟩, rfl⟩

end Disassembly
end DexQuery
