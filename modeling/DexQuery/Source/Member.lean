import DexQuery.Source.Token

/-!
# Members of source text

A member is cut out of the text of its unit from the offset of its definition. It ends at the
brace that closes its body, or at a `;` before any body; braces and semicolons inside literals and
comments do not count, and neither may a literal or comment be left open on the way. The line on
which the definition starts belongs to the member from its beginning.
-/

namespace DexQuery
namespace Source

/-- The tokens of a member, out of the tokens from its definition on, when `depth` braces are open. -/
def body? (depth : Nat) : List Token → Option (List Token)
  | [] => none
  | .stray _ :: _ => none
  | .openComment _ :: _ => none
  | .plain c :: ts =>
    if c = ';' ∧ depth = 0 then some [.plain c]
    else if c = '{' then (body? (depth + 1) ts).map (.plain c :: ·)
    else if c = '}' then
      match depth with
      | 0 => none
      | 1 => some [.plain c]
      | d + 2 => (body? (d + 1) ts).map (.plain c :: ·)
    else (body? depth ts).map (.plain c :: ·)
  | t :: ts => (body? depth ts).map (t :: ·)

/-- The end of `before` after its last newline: the part of a line before a definition. -/
def lineLead (before : List Char) : List Char := (before.reverse.takeWhile (· ≠ '\n')).reverse

/-- A member found in a unit: its byte range and its text. -/
structure Member where
  start : Nat
  stop : Nat
  text : String
deriving DecidableEq

/-- The member whose definition starts at byte `offset` of `text`. -/
def member? (text : String) (offset : Nat) : Option Member :=
  match Text.cut? offset text.toList with
  | none => none
  | some (before, after) =>
    (body? 0 (scan after)).map fun ts =>
      let lead := lineLead before
      let body := ts.flatMap Token.text
      ⟨offset - Text.size lead, offset + Text.size body, String.ofList (lead ++ body)⟩

/-- Whether byte `n` lies in the member. -/
def Member.covers (m : Member) (n : Nat) : Bool := m.start ≤ n && n < m.stop

/-- What an engine knows about where a member lies in its unit: its exact text, or the byte offset
of its definition. -/
structure Span where
  exact : Option String
  definitionOffset : Option Nat
deriving DecidableEq

/-- The exact text of a span, unless it is empty. -/
def Span.exactText? (s : Span) : Option String := s.exact.filter fun t => t != ""

/-- How the text of a member was found. -/
inductive Strategy where
  | exact
  | braceDepth
  | fullUnit
deriving DecidableEq

/-- The word that names a strategy. -/
def Strategy.word : Strategy → String
  | .exact => "exact"
  | .braceDepth => "brace_depth"
  | .fullUnit => "full_unit"

/-- The text given for a member, and how it was found. -/
structure Excerpt where
  text : String
  strategy : Strategy
deriving DecidableEq

/-- The text of a member: what the engine says it is, else what matching braces finds from its
definition, else the whole unit. -/
def excerpt (unit : String) (span : Span) : Excerpt :=
  match span.exactText? with
  | some t => ⟨t, .exact⟩
  | none =>
    match span.definitionOffset.bind (member? unit) with
    | some m => ⟨m.text, .braceDepth⟩
    | none => ⟨unit, .fullUnit⟩

/-- The warning that goes with an excerpt which is the whole unit. -/
def Excerpt.warning (e : Excerpt) : Option String :=
  if e.strategy = .fullUnit then
    some "member source could not be isolated; full unit text substituted"
  else none

end Source
end DexQuery
